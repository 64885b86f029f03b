import FactModel.Proofs.Bullet.Names
import FactModel.Proofs.Text.Plurals

/-!
# Subjects

What a bullet is about is written as the name of an entity in any case and spacing, with or without
an article in front of it.  Behind an article every declared name is found.  By itself a name is
found when it is no pronoun, which stands for the owner of the bullet, and when it does not begin
with an article of its own.
-/

namespace FactModel

namespace Text

/-! ## Letters of articles -/

/-- The capital of a paired letter. -/
def capital (p : Char) : Char :=
  Char.ofNat (p.toNat - 0x20)

/-- A paired letter stands for itself, and both of its cases are one letter and folded to it. -/
theorem paired_cases : ∀ p ∈ pairedLetters, letterKey p = p.toNat ∧ foldChar p = [p] ∧
    foldChar (capital p) = [p] ∧ sameLetter p (capital p) = true := by
  decide +kernel

/-- The two cases of a paired letter are one letter, and both are folded to it. -/
theorem of_lowerChar_eq {c p : Char} (paired : p ∈ pairedLetters) (lowered : lowerChar c = p) :
    foldChar c = [p] ∧ sameLetter p c = true := by
  obtain ⟨-, folded, foldedCapital, sameCapital⟩ := paired_cases p paired
  rcases eq_of_lowerChar_eq paired lowered with rfl | code
  · exact ⟨folded, sameLetter_self c⟩
  · have isCapital : capital p = c := by
      rw [capital, ← code, Nat.add_sub_cancel, Char.ofNat_toNat]
    exact isCapital ▸ ⟨foldedCapital, sameCapital⟩

theorem foldChar_of_sameLetter {p c : Char} (paired : p ∈ pairedLetters)
    (same : sameLetter p c = true) : foldChar c = [p] := by
  have isKey : letterKey c = p.toNat :=
    (eq_of_beq same).symm.trans (paired_cases p paired).1
  refine (of_lowerChar_eq paired ?_).1
  simp only [letterKey] at isKey
  split at isKey
  · next group found =>
    have others : ∀ p ∈ pairedLetters, ∀ group ∈ letterVariants,
        group.head?.any (· ≠ p.toNat) = true := by
      decide
    have differs := others p paired group (List.mem_of_find?_eq_some found)
    cases group with
    | nil => simp at differs
    | cons head rest => simp_all
  · exact Char.toNat_inj.mp isKey

/-- What is folded to paired letters alone is one letter, in either case. -/
theorem exists_sameLetter_of_foldChar {c : Char} (paired : ∀ p ∈ foldChar c, p ∈ pairedLetters) :
    ∃ p, foldChar c = [p] ∧ sameLetter p c = true := by
  unfold foldChar at paired ⊢
  split at paired
  · next folded found =>
    have others : ∀ row ∈ foldSequences, ∃ n ∈ row.2, Char.ofNat n ∉ pairedLetters := by
      decide +kernel
    rcases others _ (mem_of_foldSequence found) with ⟨n, mem, unpaired⟩
    exact absurd (paired _ (List.mem_map_of_mem mem)) unpaired
  · split at paired
    · next n found =>
      have codes : ∀ p ∈ pairedLetters, 0 < p.toNat ∧ ∀ row ∈ foldRows,
          p.toNat < row.2.2.2 ∨ row.2.2.2 + (row.2.1 - row.1) < p.toNat := by
        decide +kernel
      rcases exists_row_of_mapRows found with ⟨row, mem, first, last, image⟩
      rcases codes _ (paired _ List.mem_cons_self) with ⟨positive, apart⟩
      have outside := apart row mem
      rcases toNat_ofNat_cases n with valid | invalid <;> omega
    · exact ⟨lowerChar c, rfl, (of_lowerChar_eq (paired _ List.mem_cons_self) rfl).2⟩

theorem fold_append (cs ds : List Char) : fold (cs ++ ds) = fold cs ++ fold ds :=
  List.flatMap_append

/-- A phrase of paired letters is what its spellings are folded to. -/
theorem spells_iff_fold {phrase cs : List Char} (paired : ∀ p ∈ phrase, p ∈ pairedLetters) :
    Spells phrase cs ↔ fold cs = phrase := by
  constructor
  · intro spells
    induction spells with
    | nil => rfl
    | @cons p c _ _ same _ ih =>
      rcases List.forall_mem_cons.mp paired with ⟨pPaired, paired⟩
      rw [fold, List.flatMap_cons, foldChar_of_sameLetter pPaired same, List.singleton_append]
      exact congrArg (p :: ·) (ih paired)
  · intro folded
    induction cs generalizing phrase with
    | nil => exact folded ▸ .nil
    | cons c cs ih =>
      rw [fold, List.flatMap_cons] at folded
      subst folded
      rw [List.forall_mem_append] at paired
      rcases exists_sameLetter_of_foldChar paired.1 with ⟨p, isLetter, same⟩
      rw [isLetter]
      exact .cons same (ih paired.2 rfl)

/-- The words on either side of blanks. -/
theorem words_append_blanks {gap : List Char} (separates : gap ≠ [])
    (blank : ∀ c ∈ gap, isBlank c = true) (cs ds : List Char) :
    words (cs ++ gap ++ ds) = words cs ++ words ds := by
  obtain ⟨b, gap, rfl⟩ := List.exists_cons_of_ne_nil separates
  rw [List.append_assoc, List.cons_append, words_append_cons (blank b List.mem_cons_self)]
  have later := (List.forall_mem_cons.mp blank).2
  clear separates blank
  induction gap with
  | nil => rfl
  | cons c gap ih =>
    rcases List.forall_mem_cons.mp later with ⟨cBlank, later⟩
    rw [List.cons_append, words_cons_of_isBlank cBlank, ih later]

end Text

theorem Name.toList_key (name : String) :
    (Name.key name).toList = Text.fold (Text.squeeze name.toList) :=
  String.toList_ofList

namespace Bullet

open FactModel.Text

/-! ## Articles -/

/-- The articles. -/
def articles : List String :=
  ["a", "an", "each", "every", "the"]

theorem leadingArticles_eq : Context.leadingArticles = articles.map (· ++ " ") := by
  decide

theorem paired_of_mem_articles : ∀ article ∈ articles, ∀ p ∈ article.toList, p ∈ pairedLetters := by
  decide

/-- The key of a name begins with an article and goes on behind it. -/
def Articled (name : String) : Prop :=
  ∃ article ∈ Context.leadingArticles, article.toList <+: (Name.key name).toList

instance (name : String) : Decidable (Articled name) :=
  inferInstanceAs (Decidable (∃ article ∈ Context.leadingArticles, _))

/-- What follows an article at the front of a text is all that may be left of it. -/
theorem eq_of_stripPhrase_article {article : String} (isArticle : article ∈ articles)
    {w rest left : List Char} (solid : ' ' ∉ w)
    (stripped : stripPhrase (article ++ " ").toList (w ++ ' ' :: rest) = some left) :
    left = rest := by
  have noBlanks : ∀ article ∈ articles, ' ' ∉ article.toList := by decide
  rw [String.toList_append] at stripped
  rcases stripPhrase_eq_some_iff.mp stripped with ⟨_, spells, whole⟩
  rcases spells_append_iff.mp spells with ⟨ds, _, wordSpells, blankSpells, rfl⟩
  rcases spells_cons_iff.mp blankSpells with ⟨c, _, same, nothing, rfl⟩
  obtain rfl := eq_blank_of_sameLetter same
  obtain rfl := spells_nil_iff.mp nothing
  have ends := not_mem_of_spells wordSpells (noBlanks article isArticle)
  rw [List.append_assoc, List.singleton_append] at whole
  have behind {front : List Char} (solid : ' ' ∉ front) (back : List Char) :
      (front ++ ' ' :: back).dropWhile (· ≠ ' ') = ' ' :: back := by
    rw [List.dropWhile_append_of_pos]
    · rfl
    · intro c mem
      simpa using ne_of_mem_of_not_mem mem solid
  have same := congrArg (List.dropWhile (· ≠ ' ')) whole
  rw [behind solid, behind ends] at same
  exact (List.cons.inj same).2.symm

/-- A spelling of an article at the front of a text is left out. -/
theorem headD_stripOptional_article {article : String} (isArticle : article ∈ articles)
    {w : List Char} (spells : Spells article.toList w) (rest : List Char) :
    (stripOptional Context.leadingArticles (w ++ ' ' :: rest)).headD [] = rest := by
  have noBlanks : ∀ article ∈ articles, ' ' ∉ article.toList := by decide
  have solid := not_mem_of_spells spells (noBlanks article isArticle)
  have mem : rest ∈ stripAny Context.leadingArticles (w ++ ' ' :: rest) := by
    rw [stripAny, leadingArticles_eq, List.mem_filterMap]
    refine ⟨article ++ " ", List.mem_map_of_mem isArticle, ?_⟩
    rw [stripPhrase_eq_some_iff, String.toList_append]
    refine ⟨w ++ [' '], ?_, by simp⟩
    exact spells_append_iff.mpr ⟨w, [' '], spells, .cons (sameLetter_self ' ') .nil, rfl⟩
  have only : ∀ left ∈ stripAny Context.leadingArticles (w ++ ' ' :: rest), left = rest := by
    intro left isLeft
    rw [stripAny, leadingArticles_eq, List.filterMap_map, List.mem_filterMap] at isLeft
    rcases isLeft with ⟨other, isOther, stripped⟩
    exact eq_of_stripPhrase_article isOther solid stripped
  rcases List.exists_cons_of_ne_nil (List.ne_nil_of_mem mem) with ⟨first, others, isList⟩
  rw [stripOptional, isList]
  exact only first (isList ▸ List.mem_cons_self)

/-- A text that does not begin with an article stays as it is. -/
theorem stripAny_of_not_articled {name : String} (unarticled : ¬Articled name) :
    stripAny Context.leadingArticles (squeeze name.toList) = [] := by
  rw [stripAny, List.filterMap_eq_nil_iff]
  intro leading isLeading
  rw [Option.eq_none_iff_forall_ne_some]
  intro rest stripped
  apply unarticled
  refine ⟨leading, isLeading, ?_⟩
  rw [leadingArticles_eq] at isLeading
  rcases List.mem_map.mp isLeading with ⟨article, isArticle, rfl⟩
  rw [String.toList_append] at stripped ⊢
  rcases stripPhrase_eq_some_iff.mp stripped with ⟨_, spells, whole⟩
  rcases spells_append_iff.mp spells with ⟨w, _, wordSpells, blankSpells, rfl⟩
  rcases spells_cons_iff.mp blankSpells with ⟨c, _, same, nothing, rfl⟩
  obtain rfl := eq_blank_of_sameLetter same
  obtain rfl := spells_nil_iff.mp nothing
  have folded := (spells_iff_fold (paired_of_mem_articles article isArticle)).mp wordSpells
  rw [Name.toList_key, whole, fold_append, fold_append, folded]
  exact List.prefix_append _ _

/-! ## Known names -/

namespace Context

variable {ctx : Context} {name : String} (distinct : (ctx.known.map Name.key).Nodup)
  (isKnown : name ∈ ctx.known)

include distinct isKnown

theorem entityName_of_key {written : String} (same : Name.key written = Name.key name) :
    ctx.entityName written = name := by
  rw [entityName, find?_of_nodup_map distinct isKnown same.symm, Option.getD_some]

theorem entityName_ofList_squeeze {written : String} (same : Name.key written = Name.key name) :
    ctx.entityName (String.ofList (squeeze written.toList)) = name :=
  entityName_of_key distinct isKnown ((Name.key_display written).trans same)

/-- By itself a name is found when it is no pronoun and does not begin with an article. -/
theorem subject_of_key {written : String} (same : Name.key written = Name.key name)
    (noPronoun : Name.key name ∉ pronouns) (unarticled : ¬Articled name) :
    ctx.subject written = name := by
  have notPronoun : ¬pronouns.contains (Name.key (Name.display written)) = true := by
    rw [Name.key_display, same]
    simpa using noPronoun
  have unarticled' : ¬Articled written := by
    rw [Articled, same]
    exact unarticled
  have whole : stripOptional leadingArticles (Name.display written).toList =
      [squeeze written.toList] := by
    rw [Name.display, String.toList_ofList, stripOptional, stripAny_of_not_articled unarticled',
      List.nil_append]
  unfold subject
  rw [if_neg notPronoun, whole, List.headD_cons]
  exact entityName_ofList_squeeze distinct isKnown same

/-- Behind an article a name is found, whatever it is. -/
theorem subject_behind_article (nonblank : Name.Nonblank name) {article gap written : String}
    (isArticle : Name.key article ∈ articles) (separates : gap ≠ "")
    (blank : ∀ c ∈ gap.toList, isBlank c = true) (same : Name.key written = Name.key name) :
    ctx.subject (article ++ gap ++ written) = name := by
  have spells : Spells (Name.key article).toList (squeeze article.toList) := by
    rw [spells_iff_fold (paired_of_mem_articles _ isArticle), Name.toList_key]
  have squeezed : squeeze (article ++ gap ++ written).toList =
      squeeze article.toList ++ ' ' :: squeeze written.toList := by
    have articleWords : words article.toList ≠ [] := by
      have nonempty : ∀ article ∈ articles, article ≠ "" := by decide
      exact Name.nonblank_iff.mp (nonempty _ isArticle)
    have writtenWords : words written.toList ≠ [] := by
      rw [← Name.nonblank_iff, Name.Nonblank, same]
      exact nonblank
    rw [String.toList_append, String.toList_append, squeeze,
      words_append_blanks (by simpa using separates) blank, unwords_append articleWords writtenWords]
    rfl
  have notPronoun :
      ¬pronouns.contains (Name.key (Name.display (article ++ gap ++ written))) = true := by
    have others : ∀ article ∈ articles, ∀ pronoun ∈ pronouns,
        ¬article.toList ++ [' '] <+: pronoun.toList := by
      decide
    rw [Name.key_display, List.contains_iff_mem]
    intro isPronoun
    apply others _ isArticle _ isPronoun
    rw [Name.toList_key, Name.toList_key, squeezed, List.append_cons (squeeze _), fold_append,
      fold_append]
    exact List.prefix_append _ _
  have shown : (Name.display (article ++ gap ++ written)).toList =
      squeeze article.toList ++ ' ' :: squeeze written.toList := by
    rw [Name.display, String.toList_ofList, squeezed]
  unfold subject
  rw [if_neg notPronoun, shown, headD_stripOptional_article isArticle spells]
  exact entityName_ofList_squeeze distinct isKnown same

/-- A bullet about a declared entity is attached to it.  The entity is found by every spelling of its
name behind an article.  It is found by a spelling alone unless its name is a pronoun, by which the
owner of the bullet is meant, or begins with an article. -/
theorem subject_finds {written : String} (same : Name.key written = Name.key name) :
    (Name.Nonblank name → ∀ article gap : String, Name.key article ∈ articles → gap ≠ "" →
      (∀ c ∈ gap.toList, isBlank c = true) → ctx.subject (article ++ gap ++ written) = name) ∧
    (Name.key name ∈ pronouns → ctx.subject written = ctx.owner) ∧
    (Name.key name ∉ pronouns → ¬Articled name → ctx.subject written = name) := by
  refine ⟨?_, ?_, subject_of_key distinct isKnown same⟩
  · intro nonblank article gap isArticle separates blank
    exact subject_behind_article distinct isKnown nonblank isArticle separates blank same
  · intro isPronoun
    unfold subject
    rw [if_pos]
    rwa [Name.key_display, same, List.contains_iff_mem]

end Context

/-- A bullet below a header, where some entities are declared. -/
def belowHeader (owner : String) (known : List String) : Context :=
  { line := 1, text := "", owner, known, bold := [] }

/-- Entities with names of all kinds: plain, of several words, a pronoun, and one with an article. -/
def oddNames : List String :=
  ["Order", "Sales Order", "It", "The Order"]

theorem subject_finds_oddNames :
    (oddNames.map Name.key).Nodup ∧
      (belowHeader "Order" oddNames).subject "EACH \t sales  ORDER" = "Sales Order" ∧
      (belowHeader "Order" oddNames).subject "sales\u00A0order" = "Sales Order" ∧
      (belowHeader "Order" oddNames).subject "the it" = "It" ∧
      (belowHeader "Order" oddNames).subject "It" = "Order" ∧
      (belowHeader "Order" oddNames).subject "the the order" = "The Order" := by
  have distinct : (oddNames.map Name.key).Nodup := by decide +kernel
  have finds (name : String) (isKnown : name ∈ oddNames) (written : String)
      (same : Name.key written = Name.key name) :=
    Context.subject_finds (show ((belowHeader "Order" oddNames).known.map Name.key).Nodup from
      distinct) isKnown same
  refine ⟨distinct, ?_, ?_, ?_, ?_, ?_⟩
  · exact (finds "Sales Order" (by decide) "sales  ORDER" (by decide +kernel)).1 (by decide +kernel)
      "EACH" " \t " (by decide +kernel) (by decide) (by decide)
  · exact (finds "Sales Order" (by decide) _ (by decide +kernel)).2.2 (by decide +kernel)
      (by decide +kernel)
  · exact (finds "It" (by decide) "it" (by decide +kernel)).1 (by decide +kernel)
      "the" " " (by decide +kernel) (by decide) (by decide)
  · exact (finds "It" (by decide) _ rfl).2.1 (by decide +kernel)
  · exact (finds "The Order" (by decide) "the order" (by decide +kernel)).1 (by decide +kernel)
      "the" " " (by decide +kernel) (by decide) (by decide)

/-- Names that are not found by themselves, a pronoun and a name that begins with an article, and
one that is not found behind an article: the blank name. -/
theorem not_subject_self :
    ("It" ∈ oddNames ∧ (belowHeader "Order" oddNames).subject "It" ≠ "It") ∧
      ("The Order" ∈ oddNames ∧
        (belowHeader "Order" oddNames).subject "The Order" ≠ "The Order") ∧
      (belowHeader "Order" [""]).subject "the " ≠ "" := by
  decide +kernel

end Bullet

end FactModel
