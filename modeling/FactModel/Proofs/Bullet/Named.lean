import FactModel.Bullet.Classify
import FactModel.Proofs.Text.Keys

/-!
# Bullets name what they state

Whatever a bullet gives its entity has a name in which there is more than blanks.  An attribute
phrase without a name is declined, and what stands behind the phrase at which a bullet is cut goes
on to the end of the bullet, where there is no blank.
-/

namespace FactModel

/-- The attribute that an assertion states has a name, and so has a single target, which becomes an
attribute as well. -/
def Assertion.Named : Assertion → Prop
  | .hasAttribute name _ _ _ => Name.Nonblank name
  | .relatedTo target cardinality => cardinality.isSingle = true → Name.Nonblank target
  | _ => True

namespace Bullet

open FactModel.Text

/-- What a text ends with is not blank when there are no blanks at its end. -/
theorem nonblank_of_suffix {cs target : List Char} (ends : ∀ c ∈ cs.getLast?, isBlank c = false)
    (isSuffix : target <:+ cs) (ne : target ≠ []) : Name.Nonblank (String.ofList target) := by
  have last : cs.getLast? = some (target.getLast ne) :=
    (getLast?_of_suffix isSuffix ne).trans (List.getLast?_eq_some_getLast ne)
  refine Name.nonblank_of_mem (c := target.getLast ne) ?_ (ends _ last)
  rw [String.toList_ofList]
  exact List.getLast_mem ne

/-- An entity is called by a name of the same key. -/
theorem Context.key_entityName (ctx : Context) (name : String) :
    Name.key (ctx.entityName name) = Name.key name := by
  unfold Context.entityName
  cases found : ctx.known.find? (Name.key · == Name.key name) with
  | none => exact Name.key_display name
  | some known => exact eq_of_beq (List.find?_some found :)

theorem Context.nonblank_entityName {ctx : Context} {name : String} (nonblank : Name.Nonblank name) :
    Name.Nonblank (ctx.entityName name) := by
  rw [Name.Nonblank, ctx.key_entityName]
  exact nonblank

/-! ## Readings -/

theorem Reading.of_cutInTwo {phrases : List String} {body front rest : List Char}
    (isCut : cutInTwo phrases body = some (front, rest)) : rest ≠ [] ∧ rest <:+ body := by
  obtain ⟨-, phrase, -, ds, -, rfl⟩ := of_mem_cuts (List.mem_of_find?_eq_some isCut)
  exact ⟨by simpa using List.find?_some isCut, List.suffix_append _ rest⟩

/-- What is read as the one target goes on to the end of the bullet. -/
theorem Reading.of_hasExactlyOne {pattern : List Char → Option Reading}
    (isPattern : pattern ∈ patterns) {body subject target : List Char}
    (read : pattern body = some (.hasExactlyOne subject target)) :
    target ≠ [] ∧ target <:+ body := by
  simp only [patterns, List.mem_cons, List.not_mem_nil, or_false] at isPattern
  rcases isPattern with rfl | rfl | rfl | rfl | rfl | rfl | rfl | rfl | rfl
  -- The pattern before the last is the one that yields readings of this kind.
  · obtain ⟨_, -, other⟩ := List.exists_of_findSome?_eq_some read
    simp at other
  · obtain ⟨_, -, other⟩ := List.exists_of_findSome?_eq_some read
    simp at other
  · obtain ⟨⟨_, rest⟩, -, other⟩ := List.exists_of_findSome?_eq_some read
    simp only at other
    split at other <;> simp at other
  · obtain ⟨_, -, other⟩ := List.exists_of_findSome?_eq_some read
    simp at other
  · obtain ⟨_, -, inner⟩ := List.exists_of_findSome?_eq_some read
    obtain ⟨_, -, other⟩ := List.exists_of_findSome?_eq_some inner
    simp at other
  · simp [notNull?] at read
  · simp [hasMany?] at read
  · obtain ⟨⟨front, rest⟩, isCut, same⟩ := Option.map_eq_some_iff.mp read
    cases same
    exact of_cutInTwo isCut
  · simp [has?] at read

/-! ## Facts -/

theorem Object.nonblank_ofChars {written : List Char} (ne : (ofChars written).name ≠ "") :
    Name.Nonblank (ofChars written).name := by
  rw [Name.Nonblank, ofChars, Name.key_display]
  exact Name.nonblank_of_display_ne ne

theorem Context.of_hasObject {ctx : Context} {subject written : List Char} {f : Fact}
    (resolved : ctx.hasObject subject (Object.ofChars written) = some f) :
    ∃ assertion, f = ctx.fact subject assertion ∧ assertion.Named := by
  unfold hasObject at resolved
  split at resolved
  · contradiction
  · next named =>
    have nonblank := Object.nonblank_ofChars named
    split at resolved
    · cases resolved
      exact ⟨_, rfl, fun _ => nonblank_entityName nonblank⟩
    · cases resolved
      exact ⟨_, rfl, nonblank⟩

/-- A fact that is resolved is about the bullet, and names what it states, when the one target is
named. -/
theorem Context.of_resolve {ctx : Context} {reading : Reading} {f : Fact}
    (resolved : ctx.resolve reading = .ok (some f)) :
    ∃ subject assertion, f = ctx.fact subject assertion ∧
      ((∀ subject target, reading = .hasExactlyOne subject target →
        Name.Nonblank (String.ofList target)) → assertion.Named) := by
  cases reading with
  | identifiedBy subject written =>
    simp only [Context.resolve] at resolved
    split at resolved
    · simp at resolved
    · next named =>
      cases resolved
      exact ⟨_, _, rfl, fun _ => Object.nonblank_ofChars named⟩
  | has subject written =>
    obtain ⟨assertion, isFact, named⟩ := of_hasObject (Except.ok.inj resolved)
    exact ⟨subject, assertion, isFact, fun _ => named⟩
  | hasExactlyOne subject written =>
    cases resolved
    exact ⟨_, _, rfl, fun target _ => nonblank_entityName (target subject written rfl)⟩
  | hasMany subject written =>
    cases resolved
    exact ⟨_, _, rfl, fun _ single => absurd single (by decide)⟩
  | isA subject base condition =>
    cases condition with
    | none =>
      simp only [Context.resolve] at resolved
      split at resolved
      · cases resolved
        exact ⟨_, _, rfl, fun _ => trivial⟩
      · simp at resolved
    | some written =>
      simp only [Context.resolve] at resolved
      cases read : ctx.condition (squeeze written) with
      | error e => simp [read, bind, Except.bind] at resolved
      | ok condition =>
        cases condition <;> simp [read, bind, Except.bind, pure, Except.pure] at resolved
        exact ⟨_, _, resolved.symm, fun _ => trivial⟩
  | minCount subject count written =>
    cases count with
    | none =>
      cases resolved
      exact ⟨_, _, rfl, fun _ => trivial⟩
    | some count =>
      simp only [Context.resolve] at resolved
      cases read : Count.read count with
      | error e => simp [read, bind, Except.bind] at resolved
      | ok n =>
        cases n <;> simp [read, bind, Except.bind, pure, Except.pure] at resolved
        exact ⟨_, _, resolved.symm, fun _ => trivial⟩
  | inPast subject attr | like subject attr pattern | notNull subject attr =>
    cases resolved
    exact ⟨_, _, rfl, fun _ => trivial⟩

theorem Context.exists_reading {ctx : Context} {body : List Char}
    {patterns : List (List Char → Option Reading)} {f : Fact}
    (first : ctx.firstFact body patterns = .ok (some f)) :
    ∃ pattern ∈ patterns, ∃ reading, pattern body = some reading ∧
      ctx.resolve reading = .ok (some f) := by
  induction patterns with
  | nil => simp [firstFact] at first
  | cons pattern patterns ih =>
    rw [firstFact] at first
    have later (rest : ctx.firstFact body patterns = .ok (some f)) :
        ∃ other ∈ pattern :: patterns, ∃ reading, other body = some reading ∧
          ctx.resolve reading = .ok (some f) := by
      obtain ⟨other, mem, found⟩ := ih rest
      exact ⟨other, List.mem_cons_of_mem _ mem, found⟩
    cases read : pattern body with
    | none => exact later (by simpa [read] using first)
    | some reading =>
      simp only [read] at first
      split at first
      · exact later first
      · exact ⟨pattern, List.mem_cons_self, reading, read, first⟩

/-- A bullet names what it states. -/
theorem named_of_classify {line : Nat} {owner : String} {known : List String} {body : List Char}
    {f : Fact} (classified : (contextOf line owner known body).classify = .ok (some f)) :
    f.assertion.Named := by
  obtain ⟨pattern, isPattern, reading, read, resolved⟩ := Context.exists_reading classified
  obtain ⟨subject, assertion, rfl, named⟩ := Context.of_resolve resolved
  refine named fun subject target isReading => ?_
  subst isReading
  obtain ⟨ne, isSuffix⟩ := Reading.of_hasExactlyOne isPattern read
  refine nonblank_of_suffix ?_ isSuffix ne
  rw [contextOf, clean, String.toList_ofList]
  exact not_isBlank_getLast?_trim _

end Bullet

end FactModel
