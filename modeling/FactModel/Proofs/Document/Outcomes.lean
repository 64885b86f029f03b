import FactModel.Document.Outcome

/-!
# What can come of a line

The outcome of a line, case by case: what a line of each form can come to at a place, and at which
lines reading can stop.  The proofs about texts that are read follow these cases.
-/

namespace FactModel.Outcome

variable {known : List String} {place : Place} {number : Nat}

/-- What comes of a line at a place, by the form of the line. -/
inductive Comes (known : List String) (place : Place) (number : Nat) : Line → Outcome → Prop where
  | fenced : Comes known place number .fenced .skipped
  | blank : Comes known place number .blank .skipped
  | heading : Comes known place number .heading .skipped
  | declared (name description text : String) :
    Comes known place number (.header name description text) (.declared name description text)
  | stated {owner : String} {body : List Char} {f : Fact} (owned : place.owner = some owner)
    (classified : (Bullet.contextOf number owner known body).classify = .ok (some f)) :
    Comes known place number (.bullet body) (.stated f)
  | unrecognized {owner : String} {body : List Char} (owned : place.owner = some owner)
    (declined : (Bullet.contextOf number owner known body).classify = .ok none) :
    Comes known place number (.bullet body)
      (.unrecognized owner (Bullet.contextOf number owner known body).text)
  | described {text : List Char} (describing : place.describing = true) :
    Comes known place number (.prose text) (.described (String.ofList text))
  | unbulleted {owner : String} {text : List Char} (beyond : place.describing = false)
    (owned : place.owner = some owner) (like : readsLikeFact known owner number text = .ok true) :
    Comes known place number (.prose text) (.unbulleted owner (String.ofList text))
  | ignored {text : List Char} (beyond : place.describing = false)
    (unlike : ∀ owner, place.owner = some owner →
      readsLikeFact known owner number text = .ok false) :
    Comes known place number (.prose text) .ignored

/-- Why reading stops at a line at a place. -/
inductive Fails (known : List String) (place : Place) (number : Nat) : Line → ReadError → Prop where
  | orphan {body : List Char} (top : place.owner = none) :
    Fails known place number (.bullet body) (.orphanBullet number)
  | bullet {owner : String} {body : List Char} {e : CountError} (owned : place.owner = some owner)
    (fails : (Bullet.contextOf number owner known body).classify = .error e) :
    Fails known place number (.bullet body) (.count e)
  | prose {owner : String} {text : List Char} {e : CountError} (beyond : place.describing = false)
    (owned : place.owner = some owner)
    (fails : (Bullet.contextOf number owner known text).classify = .error e) :
    Fails known place number (.prose text) (.count e)

/-- A line outside a bullet is classified like one. -/
theorem readsLikeFact_eq {owner : String} {text : List Char} :
    readsLikeFact known owner number text =
      (Bullet.contextOf number owner known text).classify.map
        (·.any fun f => known.any (Name.key · == Name.key f.entity)) := by
  unfold readsLikeFact
  cases (Bullet.contextOf number owner known text).classify <;> rfl

/-- Every line comes to something or stops the reading. -/
theorem comes_or_fails (known : List String) (place : Place) (number : Nat) (line : Line) :
    (∃ outcome, ofLine known place number line = .ok outcome ∧
        Comes known place number line outcome) ∨
      ∃ failure, ofLine known place number line = .error failure ∧
        Fails known place number line failure := by
  cases line with
  | fenced => exact .inl ⟨_, rfl, .fenced⟩
  | blank => exact .inl ⟨_, rfl, .blank⟩
  | heading => exact .inl ⟨_, rfl, .heading⟩
  | header name description text => exact .inl ⟨_, rfl, .declared name description text⟩
  | bullet body =>
    cases owned : place.owner with
    | none => exact .inr ⟨.orphanBullet number, by simp only [ofLine, owned], .orphan owned⟩
    | some owner =>
      cases classified : (Bullet.contextOf number owner known body).classify with
      | error e =>
        refine .inr ⟨.count e, ?_, .bullet owned classified⟩
        simp only [ofLine, owned, ofBullet, classified]
        rfl
      | ok fact =>
        cases fact with
        | none =>
          refine .inl ⟨_, ?_, .unrecognized owned classified⟩
          simp only [ofLine, owned, ofBullet, classified]
          rfl
        | some f =>
          refine .inl ⟨.stated f, ?_, .stated owned classified⟩
          simp only [ofLine, owned, ofBullet, classified]
          rfl
  | prose text =>
    cases describing : place.describing with
    | true =>
      refine .inl ⟨_, ?_, .described describing⟩
      simp only [ofLine, ofProse, describing]
      rfl
    | false =>
      cases owned : place.owner with
      | none =>
        refine .inl ⟨.ignored, ?_, .ignored describing (by simp [owned])⟩
        simp only [ofLine, ofProse, describing, owned]
        rfl
      | some owner =>
        cases classified : (Bullet.contextOf number owner known text).classify with
        | error e =>
          refine .inr ⟨.count e, ?_, .prose describing owned classified⟩
          simp only [ofLine, ofProse, describing, owned, readsLikeFact_eq, classified]
          rfl
        | ok fact =>
          have like : readsLikeFact known owner number text =
              .ok (fact.any fun f => known.any (Name.key · == Name.key f.entity)) := by
            rw [readsLikeFact_eq, classified]
            rfl
          cases isFact : fact.any fun f => known.any (Name.key · == Name.key f.entity) with
          | true =>
            refine .inl ⟨_, ?_, .unbulleted describing owned (isFact ▸ like)⟩
            simp only [ofLine, ofProse, describing, owned, like, isFact]
            rfl
          | false =>
            refine .inl ⟨.ignored, ?_, .ignored describing ?_⟩
            · simp only [ofLine, ofProse, describing, owned, like, isFact]
              rfl
            · rintro other isOwner
              cases owned.symm.trans isOwner
              exact isFact ▸ like

theorem comes_of_ofLine {line : Line} {outcome : Outcome}
    (read : ofLine known place number line = .ok outcome) :
    Comes known place number line outcome := by
  rcases comes_or_fails known place number line with ⟨other, same, comes⟩ | ⟨failure, failed, -⟩
  · cases same.symm.trans read
    exact comes
  · cases failed.symm.trans read

theorem fails_of_ofLine {line : Line} {failure : ReadError}
    (stopped : ofLine known place number line = .error failure) :
    Fails known place number line failure := by
  rcases comes_or_fails known place number line with ⟨outcome, read, -⟩ | ⟨other, same, fails⟩
  · cases read.symm.trans stopped
  · cases same.symm.trans stopped
    exact fails

end FactModel.Outcome
