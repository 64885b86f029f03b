import FactModel.Artifact.Run
import FactModel.Proofs.Graph.Compiling
import FactModel.Proofs.Keyed

/-!
# Requests completed in any order

What requests come to is kept by their keys, and a key joins the kind and the dialect of a request
by a colon.  Where no two of the requests share a key, a run tells of each of them just what it
comes to, and tells the same in whatever order they were completed.  Where two do, one of them is
told of in the place of the other.
-/

namespace FactModel

namespace Run

section Keyed

variable {α : Type} (f : Request → Option α)

/-- What requests come to, each under its key. -/
def keyed (requests : List Request) : List (String × α) :=
  requests.filterMap fun request => (f request).map fun a => (request.key, a)

variable {f}

theorem mem_keyed {requests : List Request} {key : String} {a : α} :
    (key, a) ∈ keyed f requests ↔ ∃ request ∈ requests, request.key = key ∧ f request = some a := by
  simp only [keyed, List.mem_filterMap, Option.map_eq_some_iff, Prod.mk.injEq]
  constructor
  · rintro ⟨request, mem, b, comes, rfl, rfl⟩
    exact ⟨request, mem, rfl, comes⟩
  · rintro ⟨request, mem, rfl, comes⟩
    exact ⟨request, mem, a, comes, rfl, rfl⟩

theorem keys_keyed (requests : List Request) : (keyed f requests).map (·.1) =
    (requests.filter fun request => (f request).isSome).map Request.key := by
  induction requests with
  | nil => rfl
  | cons request rest ih =>
    cases comes : f request with
    | none => simpa [keyed, comes] using ih
    | some a => simpa [keyed, comes] using ih

theorem keyed_concat_some {front : List Request} {last : Request} {a : α}
    (comes : f last = some a) :
    keyed f (front ++ [last]) = keyed f front ++ [(last.key, a)] := by
  simp [keyed, comes]

theorem keyed_concat_none {front : List Request} {last : Request} (comes : f last = none) :
    keyed f (front ++ [last]) = keyed f front := by
  simp [keyed, comes]

theorem length_keyed (requests : List Request) :
    (keyed f requests).length = requests.countP fun request => (f request).isSome := by
  simp [keyed, List.length_filterMap_eq_countP]

theorem nodup_keys_keyed {requests : List Request} (keys : (requests.map Request.key).Nodup) :
    ((keyed f requests).map (·.1)).Nodup := by
  rw [keys_keyed]
  exact keys.sublist ((List.filter_sublist ..).map Request.key)

theorem get?_keyed {requests : List Request} (keys : (requests.map Request.key).Nodup)
    {request : Request} (mem : request ∈ requests) :
    Keyed.get? request.key (keyed f requests) = f request := by
  refine Option.ext fun a => ?_
  rw [Keyed.get?_eq_some_iff (nodup_keys_keyed keys), mem_keyed]
  constructor
  · rintro ⟨other, otherMem, same, comes⟩
    rwa [← List.inj_on_of_nodup_map keys otherMem mem same]
  · exact fun comes => ⟨request, mem, rfl, comes⟩

end Keyed

section Outcome

variable (outcome : Request → Except Refusal String)

/-- The text that a request comes to. -/
def text? (request : Request) : Option String :=
  match outcome request with
  | .ok text => some text
  | .error _ => none

/-- The refusal that a request comes to. -/
def refusal? (request : Request) : Option Refusal :=
  match outcome request with
  | .ok _ => none
  | .error refusal => some refusal

/-- A run accounts for requests: each of them is told of once, by the text or by the refusal that it
comes to and not by both, there are as many entries as requests, and the texts stand in the order of
the requests. -/
structure Accounts (run : Run) (requests : List Request) : Prop where
  told : ∀ request ∈ requests,
    Keyed.get? request.key run.artifacts = text? outcome request ∧
      Keyed.get? request.key run.refusals = refusal? outcome request
  count : run.artifacts.length + run.refusals.length = requests.length
  inOrder : run.artifacts.map (·.1) =
    (requests.filter fun request => (text? outcome request).isSome).map Request.key
  refused : (run.refusals.map (·.1)).Perm
    ((requests.filter fun request => (refusal? outcome request).isSome).map Request.key)

variable {outcome}

theorem text?_of_ok {request : Request} {text : String} (comes : outcome request = .ok text) :
    text? outcome request = some text ∧ refusal? outcome request = none := by
  simp [text?, refusal?, comes]

theorem refusal?_of_error {request : Request} {refusal : Refusal}
    (comes : outcome request = .error refusal) :
    text? outcome request = none ∧ refusal? outcome request = some refusal := by
  simp [text?, refusal?, comes]

/-- The texts and refusals gathered from requests of different keys. -/
theorem foldl_complete {completed : List Request} (keys : (completed.map Request.key).Nodup) :
    completed.foldl (fun p request => Progress.complete p request (outcome request))
        { results := [], refusals := [] } =
      { results := keyed (text? outcome) completed
        refusals := keyed (refusal? outcome) completed } := by
  induction completed using List.reverseRecOn with
  | nil => rfl
  | append_singleton front last ih =>
    rw [List.map_append, List.nodup_append] at keys
    have new {α : Type} (f : Request → Option α) : last.key ∉ (keyed f front).map (·.1) := by
      rw [keys_keyed]
      intro there
      obtain ⟨request, mem, same⟩ := List.mem_map.mp there
      have mem := List.mem_map_of_mem (f := Request.key) (List.mem_of_mem_filter mem)
      exact keys.2.2 _ mem last.key (by simp) same
    rw [List.foldl_append, ih keys.1, List.foldl_cons, List.foldl_nil]
    cases comes : outcome last with
    | ok text =>
      obtain ⟨said, unrefused⟩ := text?_of_ok comes
      rw [keyed_concat_some said, keyed_concat_none unrefused, ← Keyed.put_of_not_mem (new _)]
      rfl
    | error refusal =>
      obtain ⟨unsaid, refused⟩ := refusal?_of_error comes
      rw [keyed_concat_none unsaid, keyed_concat_some refused, ← Keyed.put_of_not_mem (new _)]
      rfl

theorem nodup_keys_refusals (requests completed : List Request) :
    ((ofCompletion outcome requests completed).refusals.map (·.1)).Nodup := by
  rw [ofCompletion]
  induction completed using List.reverseRecOn with
  | nil => exact List.nodup_nil
  | append_singleton front last ih =>
    rw [List.foldl_append, List.foldl_cons, List.foldl_nil]
    cases outcome last with
    | ok text => exact ih
    | error refusal => exact Keyed.nodup_keys_put ih

section Completion

variable {requests completed : List Request} (any : completed.Perm requests)

include any

/-- A run of requests of different keys. -/
theorem ofCompletion_eq (keys : (requests.map Request.key).Nodup) :
    ofCompletion outcome requests completed =
      { artifacts := keyed (text? outcome) requests
        refusals := keyed (refusal? outcome) completed } := by
  have keys' := (any.map Request.key).nodup_iff.mpr keys
  have found : (requests.filterMap fun request =>
      (Keyed.get? request.key (keyed (text? outcome) completed)).map fun text =>
        (request.key, text)) = keyed (text? outcome) requests := by
    refine List.filterMap_congr fun request mem => ?_
    rw [get?_keyed keys' (any.mem_iff.mpr mem)]
  rw [ofCompletion, foldl_complete keys', found, Keyed.ofList_eq_self (nodup_keys_keyed keys)]

theorem accounts_of_nodup (keys : (requests.map Request.key).Nodup) :
    Accounts outcome (ofCompletion outcome requests completed) requests := by
  have keys' := (any.map Request.key).nodup_iff.mpr keys
  rw [ofCompletion_eq any keys]
  refine ⟨fun request mem => ?_, ?_, keys_keyed requests, ?_⟩
  · exact ⟨get?_keyed keys mem, get?_keyed keys' (any.mem_iff.mpr mem)⟩
  · have either (request : Request) : (refusal? outcome request).isSome =
        decide ¬(text? outcome request).isSome = true := by
      cases comes : outcome request <;> simp [text?, refusal?, comes]
    rw [length_keyed, length_keyed, any.countP_eq]
    simp only [either]
    exact (List.length_eq_countP_add_countP _).symm
  · rw [keys_keyed]
    exact (any.filter _).map _

end Completion

/-- A run that accounts for different requests tells them apart by their keys. -/
theorem nodup_of_accounts {requests completed : List Request} (nodup : requests.Nodup)
    (accounts : Accounts outcome (ofCompletion outcome requests completed) requests) :
    (requests.map Request.key).Nodup := by
  have texts := accounts.inOrder ▸ Keyed.nodup_keys_ofList _
  have refusals := accounts.refused.nodup_iff.mp (nodup_keys_refusals requests completed)
  refine List.Nodup.map_on (fun p pMem q qMem same => ?_) nodup
  -- What is found under the one key is what either of the two comes to.
  obtain ⟨pText, pRefusal⟩ := accounts.told p pMem
  obtain ⟨qText, qRefusal⟩ := accounts.told q qMem
  rw [same] at pText pRefusal
  cases comes : outcome p with
  | ok text =>
    have said := (text?_of_ok comes).1
    refine List.inj_on_of_nodup_map texts ?_ ?_ same
    · simp [pMem, said]
    · simp [qMem, ← qText, pText, said]
  | error refusal =>
    have refused := (refusal?_of_error comes).2
    refine List.inj_on_of_nodup_map refusals ?_ ?_ same
    · simp [pMem, refused]
    · simp [qMem, ← qRefusal, pRefusal, refused]

end Outcome

end Run

namespace Request

theorem toList_key (request : Request) :
    request.key.toList = request.kind.toList ++ ':' :: request.dialect.toList := by
  simp [key, toString]

theorem ext_toList {p q : Request} (kind : p.kind.toList = q.kind.toList)
    (dialect : p.dialect.toList = q.dialect.toList) : p = q := by
  cases p
  cases q
  simp_all [String.toList_inj]

/-- Where neither the kind of one request and the dialect of the other hold a colon, nor the other
way round, there is one place only at which the key can be cut. -/
theorem eq_of_key {p q : Request} (same : p.key = q.key)
    (here : ':' ∉ q.kind.toList ∨ ':' ∉ p.dialect.toList)
    (there : ':' ∉ p.kind.toList ∨ ':' ∉ q.dialect.toList) : p = q := by
  have joined : p.kind.toList ++ ':' :: p.dialect.toList =
      q.kind.toList ++ ':' :: q.dialect.toList := by
    rw [← toList_key, ← toList_key, same]
  rcases List.append_eq_append_iff.mp joined with ⟨_ | ⟨c, front⟩, kind, rest⟩ |
    ⟨_ | ⟨c, front⟩, kind, rest⟩
  · exact ext_toList (by simpa using kind.symm) (by simpa using rest)
  · obtain ⟨rfl, dialect⟩ := List.cons_eq_cons.mp rest
    simp [kind, dialect] at here
  · exact ext_toList (by simpa using kind) (by simpa using rest.symm)
  · obtain ⟨rfl, dialect⟩ := List.cons_eq_cons.mp rest
    simp [kind, dialect] at there

theorem nodup_keys {requests : List Request} (nodup : requests.Nodup)
    (plain : (∀ request ∈ requests, ':' ∉ request.kind.toList) ∨
      ∀ request ∈ requests, ':' ∉ request.dialect.toList) :
    (requests.map key).Nodup := by
  refine List.Nodup.map_on (fun p pMem q qMem same => ?_) nodup
  rcases plain with kinds | dialects
  · exact eq_of_key same (.inl (kinds q qMem)) (.inl (kinds p pMem))
  · exact eq_of_key same (.inr (dialects p pMem)) (.inr (dialects q qMem))

end Request

/-- Serving many requests is a run, unless there is something to do and nobody to do it. -/
theorem Registry.generateMany_eq (r : Registry) (g : Graph) {requests : List Request}
    {asked : Option Int} (able : requests = [] ∨ 0 < Run.workers asked) :
    r.generateMany g requests asked =
      .ok (Run.ofCompletion (r.generate g) requests.eraseDups requests.eraseDups) := by
  rw [generateMany]
  cases distinct : requests.eraseDups with
  | nil => rfl
  | cons first rest =>
    have some : requests ≠ [] := by
      rintro rfl
      simp at distinct
    have enough := Int.not_le.mpr (able.resolve_left some)
    simp [enough]

/-- Many requests are accounted for in whatever order they are completed, each distinct one by what
making it alone comes to, just when no two of them share a key.  Then the order makes no difference
to what is found under a key, nor to the order of the texts.  No key is shared where no kind, or no
dialect, holds a colon. -/
theorem accounts_iff (r : Registry) (g : Graph) (requests : List Request) {completed : List Request}
    (any : completed.Perm requests.eraseDups) :
    ((Run.ofCompletion (r.generate g) requests.eraseDups completed).Accounts (r.generate g)
        requests.eraseDups ↔ (requests.eraseDups.map Request.key).Nodup) ∧
      ((requests.eraseDups.map Request.key).Nodup → ∀ completed',
        completed'.Perm requests.eraseDups →
          let run := Run.ofCompletion (r.generate g) requests.eraseDups completed
          let run' := Run.ofCompletion (r.generate g) requests.eraseDups completed'
          run.artifacts = run'.artifacts ∧
            ∀ key, Keyed.get? key run.refusals = Keyed.get? key run'.refusals) ∧
      ((∀ request ∈ requests, ':' ∉ request.kind.toList) ∨
          (∀ request ∈ requests, ':' ∉ request.dialect.toList) →
        (requests.eraseDups.map Request.key).Nodup) ∧
      ∀ asked, requests = [] ∨ 0 < Run.workers asked → r.generateMany g requests asked =
        .ok (Run.ofCompletion (r.generate g) requests.eraseDups requests.eraseDups) := by
  have nodup := Arena.nodup_eraseDups requests
  refine ⟨⟨Run.nodup_of_accounts nodup, Run.accounts_of_nodup any⟩, ?_, ?_, ?_⟩
  · intro keys completed' any'
    rw [Run.ofCompletion_eq any keys, Run.ofCompletion_eq any' keys]
    refine ⟨rfl, Keyed.get?_eq_of_perm ?_ (Run.nodup_keys_keyed ?_)⟩
    · exact (any.trans any'.symm).filterMap _
    · exact (any.map Request.key).nodup_iff.mpr keys
  · intro plain
    refine Request.nodup_keys nodup (plain.imp ?_ ?_) <;>
      exact fun all request mem => all request (List.mem_eraseDups.mp mem)
  · exact fun asked able => r.generateMany_eq g able

theorem accounts_iff_three_kinds : ∃ g, compile "**A**\n- A has a Name.\n" = .ok g ∧
    let requests : List Request :=
      [⟨"rag-doc", "oracle"⟩, ⟨"matrix", "mysql"⟩, ⟨"rag-doc", "oracle"⟩, ⟨"matrix", "sqlite"⟩]
    let completed := [⟨"matrix", "sqlite"⟩, ⟨"rag-doc", "oracle"⟩, ⟨"matrix", "mysql"⟩]
    let run := Run.ofCompletion (Registry.usual.generate g) requests.eraseDups completed
    completed.Perm requests.eraseDups ∧ (requests.eraseDups.map Request.key).Nodup ∧
      run.Accounts (Registry.usual.generate g) requests.eraseDups ∧
      run.artifacts.map (·.1) = ["matrix:mysql", "matrix:sqlite"] ∧
      run.refusals.map (·.1) = ["rag-doc:oracle"] := by
  let requests : List Request :=
    [⟨"rag-doc", "oracle"⟩, ⟨"matrix", "mysql"⟩, ⟨"rag-doc", "oracle"⟩, ⟨"matrix", "sqlite"⟩]
  let completed : List Request :=
    [⟨"matrix", "sqlite"⟩, ⟨"rag-doc", "oracle"⟩, ⟨"matrix", "mysql"⟩]
  have perm : completed.Perm requests.eraseDups := by decide
  have keys : (requests.eraseDups.map Request.key).Nodup := by decide
  obtain ⟨g, compiles, keyed⟩ := of_compilesTo (show compilesTo "**A**\n- A has a Name.\n" (fun g =>
    let run := Run.ofCompletion (Registry.usual.generate g) requests.eraseDups completed
    run.artifacts.map (·.1) == ["matrix:mysql", "matrix:sqlite"] &&
      run.refusals.map (·.1) == ["rag-doc:oracle"]) = true by decide +kernel)
  obtain ⟨texts, refusals⟩ := (Bool.and_eq_true ..).mp keyed
  exact ⟨g, compiles, perm, keys, (accounts_iff Registry.usual g requests perm).1.mpr keys,
    eq_of_beq texts, eq_of_beq refusals⟩

/-- The usual registry with one more kind, whose name joins a usual kind and another name. -/
def Registry.joining : Registry :=
  usual.addGenerator "matrix:x" none (.silent fun _ _ d => .ok d.name)

/-- Requests of which the first and the last share a key. -/
def Request.meeting : List Request :=
  [⟨"matrix", "x:postgres"⟩, ⟨"matrix", "postgres"⟩, ⟨"matrix:x", "postgres"⟩]

/-- The text of the last request stands at the place of the first one, which was refused. -/
theorem not_accounts_meeting : ∃ g, compile "**A**\n- A has a Name.\n" = .ok g ∧
    let run := Run.ofCompletion (Registry.joining.generate g) Request.meeting Request.meeting
    run.artifacts.map (·.1) = ["matrix:x:postgres", "matrix:postgres"] ∧
      run.refusals.map (·.1) = ["matrix:x:postgres"] ∧
      ¬run.Accounts (Registry.joining.generate g) Request.meeting := by
  obtain ⟨g, compiles, keyed⟩ := of_compilesTo (show compilesTo "**A**\n- A has a Name.\n" (fun g =>
    let run := Run.ofCompletion (Registry.joining.generate g) Request.meeting Request.meeting
    run.artifacts.map (·.1) == ["matrix:x:postgres", "matrix:postgres"] &&
      run.refusals.map (·.1) == ["matrix:x:postgres"]) = true by decide +kernel)
  obtain ⟨texts, refusals⟩ := (Bool.and_eq_true ..).mp keyed
  refine ⟨g, compiles, eq_of_beq texts, eq_of_beq refusals, fun accounts => ?_⟩
  have keys := Run.nodup_of_accounts (by decide) accounts
  exact absurd keys (by decide)

end FactModel
