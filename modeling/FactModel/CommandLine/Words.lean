/-!
# Words of a command

The words behind a command are options and operands in any order.  An option with a value takes the
next word, whatever it is, or what is attached to it; behind two dashes alone there are operands
only.
-/

namespace FactModel.CommandLine

/-- An option that a command knows. -/
structure Switch where
  name : String
  /-- The letter that the option may be written with. -/
  letter : Option Char
  valued : Bool
  deriving DecidableEq, Repr

/-- The words of a command, sorted out. -/
structure Words where
  /-- The names of the options with their values, in the order in which they are given. -/
  options : List (String × String)
  operands : List String
  deriving DecidableEq, Repr

namespace Words

/-- No words. -/
def none : Words :=
  { options := [], operands := [] }

/-- Words with options in front. -/
def withOptions (options : List (String × String)) (ws : Words) : Words :=
  { ws with options := options ++ ws.options }

/-- Words with an operand in front. -/
def withOperand (operand : String) (ws : Words) : Words :=
  { ws with operands := operand :: ws.operands }

/-- The options that one word gives, and the option that waits for its value. -/
abbrev Given := List (String × String) × Option String

/-- Reads an option that is written with its name. -/
def readName (switches : List Switch) (word : List Char) : Option Given :=
  let name := String.ofList (word.takeWhile (· ≠ '='))
  let attached := word.dropWhile (· ≠ '=')
  (switches.find? (·.name == name)).bind fun s =>
    match attached with
    | [] => if s.valued then some ([], some name) else some ([(name, "")], Option.none)
    | _ :: value =>
      if s.valued then some ([(name, String.ofList value)], Option.none) else Option.none

/-- Reads options that are written with their letters.  A letter whose option has a value takes what
is attached to it. -/
def readLetters (switches : List Switch) : List Char → Option Given
  | [] => some ([], Option.none)
  | c :: cs =>
    (switches.find? (·.letter == some c)).bind fun s =>
      if s.valued then
        if cs = [] then some ([], some s.name) else some ([(s.name, String.ofList cs)], Option.none)
      else
        (readLetters switches cs).map fun (options, waiting) => ((s.name, "") :: options, waiting)

/-- Reads a word that begins with a dash. -/
def readOption (switches : List Switch) : List Char → Option Given
  | '-' :: word => readName switches word
  | word => readLetters switches word

/-- Sorts out words, when an option waits for its value; none when an option is unknown or lacks its
value. -/
def read (switches : List Switch) (waiting : Option String) : List String → Option Words
  | [] => if waiting.isSome then Option.none else some none
  | word :: rest =>
    match waiting with
    | some name => (read switches Option.none rest).map (withOptions [(name, word)])
    | Option.none =>
      match word.toList with
      | ['-', '-'] => some { options := [], operands := rest }
      | '-' :: c :: cs =>
        (readOption switches (c :: cs)).bind fun (options, waiting) =>
          (read switches waiting rest).map (withOptions options)
      | _ => (read switches Option.none rest).map (withOperand word)

/-- All values of an option. -/
def values (ws : Words) (name : String) : List String :=
  (ws.options.filter (·.1 == name)).map (·.2)

/-- The last value of an option. -/
def value? (ws : Words) (name : String) : Option String :=
  (ws.values name).getLast?

/-- Whether an option is given. -/
def has (ws : Words) (name : String) : Bool :=
  (ws.value? name).isSome

/-- Words without a dash in front are operands. -/
theorem read_of_not_dash (switches : List Switch) {words : List String}
    (plain : ∀ w ∈ words, w.toList.head? ≠ some '-') :
    read switches Option.none words = some { options := [], operands := words } := by
  induction words with
  | nil => rfl
  | cons w ws ih =>
    have first := plain w (by simp)
    have rest := ih fun x found => plain x (by simp [found])
    unfold read
    simp only
    split
    · next spelled => simp [spelled] at first
    · next spelled => simp [spelled] at first
    · simp [rest, withOperand]

end Words

end FactModel.CommandLine
