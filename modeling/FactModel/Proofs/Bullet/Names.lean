import FactModel.Bullet.Classify
import FactModel.Proofs.Bullet.Marks
import FactModel.Proofs.Text.Phrases

/-!
# Names that can stand in a bullet

A name is plain when nothing in it could be taken for a part of the sentence around it: no mark,
and none of the words on which the patterns hinge.  A plain name that is written in a bullet is read
as that name.
-/

namespace FactModel.Bullet

open FactModel.Text

/-- The verbs of bullets. -/
def verbs : List String := ["is", "has", "must"]

/-- The words on which the patterns hinge. -/
def keyWords : List String :=
  verbs ++ ["with", "that", "who", "having", "like", "matching", "for", "such"]

/-- The characters that mark a part of a line: names in bold, the ends of names and sentences, types
and examples. -/
def markChars : List Char := ['*', ':', '.', ';', ',', '(']

/-- A name that can stand in a bullet without being taken for anything else. -/
structure Plain (name : String) : Prop where
  nonempty : name ≠ ""
  tidy : Tidy name.toList
  unmarked : ∀ c ∈ name.toList, c ∉ markChars
  free : Free keyWords (standing name)

instance (name : String) : Decidable (Plain name) :=
  decidable_of_iff (name ≠ "" ∧ Tidy name.toList ∧ (∀ c ∈ name.toList, c ∉ markChars) ∧
      Free keyWords (standing name))
    ⟨fun ⟨nonempty, tidy, unmarked, free⟩ => ⟨nonempty, tidy, unmarked, free⟩,
      fun ⟨nonempty, tidy, unmarked, free⟩ => ⟨nonempty, tidy, unmarked, free⟩⟩

theorem noBlanks_keyWords : ∀ word ∈ keyWords, ' ' ∉ word.toList := by
  decide

namespace Plain

variable {name : String} (plain : Plain name)

include plain

theorem toList_ne_nil : name.toList ≠ [] := by
  simpa using plain.nonempty

theorem display_eq : Name.display name = name := by
  rw [Name.display, plain.tidy, String.ofList_toList]

theorem asterisk_not_mem : '*' ∉ name.toList := by
  intro mem
  exact plain.unmarked '*' mem (by decide)

theorem isEndMark_getLast? : ∀ c ∈ name.toList.getLast?, isEndMark c = false := by
  intro c isLast
  have notMark := plain.unmarked c (List.mem_of_getLast? isLast)
  simp only [markChars, List.mem_cons, not_or] at notMark
  simp [isEndMark, notMark]

/-- None of the key words stands in front of a blank that follows the name. -/
theorem free_append : Free keyWords (name.toList ++ [' ']) :=
  plain.free.mono (List.suffix_cons ' ' _).isInfix

end Plain

/-! ## Resolving names -/

/-- No declared entity spells a name in another way. -/
def Spelled (known : List String) (name : String) : Prop :=
  ∀ other ∈ known, Name.key other = Name.key name → other = name

instance (known : List String) (name : String) : Decidable (Spelled known name) :=
  inferInstanceAs (Decidable (∀ other ∈ known, Name.key other = Name.key name → other = name))

/-- A name that as a subject means itself: no pronoun, and no article in front. -/
def Direct (name : String) : Prop :=
  Name.key name ∉ Context.pronouns ∧ stripAny Context.leadingArticles name.toList = []

instance (name : String) : Decidable (Direct name) :=
  inferInstanceAs (Decidable (_ ∧ _))

theorem Spelled.getD_find? {known : List String} {name : String} (spelled : Spelled known name)
    (display : Name.display name = name) :
    (known.find? (Name.key · == Name.key name)).getD (Name.display name) = name := by
  cases found : known.find? (Name.key · == Name.key name) with
  | none => exact display
  | some other =>
    have same := List.find?_some found
    simp only [beq_iff_eq] at same
    exact spelled other (List.mem_of_find?_eq_some found) same

namespace Context

variable {ctx : Context} {name : String}

theorem entityName_eq (spelled : Spelled ctx.known name) (display : Name.display name = name) :
    ctx.entityName name = name :=
  spelled.getD_find? display

theorem subject_eq (plain : Plain name) (spelled : Spelled ctx.known name) (direct : Direct name) :
    ctx.subject (String.ofList name.toList) = name := by
  obtain ⟨noPronoun, noArticle⟩ := direct
  have other : ¬pronouns.contains (Name.key name) = true := by
    simpa using noPronoun
  have whole : stripOptional leadingArticles name.toList = [name.toList] := by
    rw [stripOptional, noArticle, List.nil_append]
  unfold subject
  rw [String.ofList_toList, plain.display_eq, if_neg other, whole, List.headD_cons,
    String.ofList_toList]
  exact entityName_eq spelled plain.display_eq

/-- Whether a name in bold is an entity. -/
theorem isEntity_of_mem_bold (mem : Name.key name ∈ ctx.bold) : ctx.isEntity name = true := by
  simp [isEntity, mem]

end Context

end FactModel.Bullet
