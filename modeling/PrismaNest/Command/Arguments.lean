import PrismaNest.Text.DecimalDigit
import PrismaNest.Text.Lines
import PrismaNest.Text.Quoted

/-! Arguments of a command: options, and arguments of other kinds.

An option starts with a hyphen. A long option may be shortened as long as only one
option starts like it, and short ones may be written together. Two hyphens end the
options. Negative numbers, and words with a space in them, are no options unless
they name one.
-/

set_option autoImplicit false

namespace PrismaNest

inductive Arity where
  | none
  | one
  | some
  deriving DecidableEq, Repr

/-- What an option does besides being noted: some options end the command at once. -/
inductive Effect where
  | note
  | help
  | version
  deriving DecidableEq, Repr

structure CommandOption where
  flags : List String
  arity : Arity
  effect : Effect
  deriving DecidableEq, Repr

def CommandOption.label (option : CommandOption) : String :=
  String.intercalate "/" option.flags

/-- What stands for the arguments that are no options: any number of them, exactly one, or a
command with everything after it. -/
inductive Positional where
  | many
  | one (name : String)
  | command (name : String)
  deriving DecidableEq, Repr

def Positional.requiredName? : Positional → Option String
  | .many => none
  | .one name | .command name => some name

structure Grammar where
  options : List CommandOption
  positional : Positional
  deriving DecidableEq, Repr

inductive Misuse where
  | unrecognized (arguments : List String)
  | oneExpected (label : String)
  | someExpected (label : String)
  | ambiguous (given : String) (candidates : List String)
  | ignoredArgument (label argument : String)
  | missing (name : String)
  | unknownCommand (label given : String) (choices : List String)
  deriving DecidableEq, Repr

def Misuse.message : Misuse → String
  | .unrecognized arguments => "unrecognized arguments: " ++ String.intercalate " " arguments
  | .oneExpected label => "argument " ++ label ++ ": expected one argument"
  | .someExpected label => "argument " ++ label ++ ": expected at least one argument"
  | .ambiguous given candidates =>
    "ambiguous option: " ++ given ++ " could match " ++ String.intercalate ", " candidates
  | .ignoredArgument label argument =>
    "argument " ++ label ++ ": ignored explicit argument " ++ Text.quoted argument
  | .missing name => "the following arguments are required: " ++ name
  | .unknownCommand label given choices =>
    "argument " ++ label ++ ": invalid choice: " ++ Text.quoted given ++ " (choose from "
      ++ String.intercalate ", " (choices.map Text.quoted) ++ ")"

/-- Why a command ends before it has done anything. -/
inductive Halt where
  | help
  | version
  | misuse (cause : Misuse)
  deriving DecidableEq, Repr

/-- An option as it is given: what it means, the flag, and what follows the flag in the same word,
with or without an equals sign. -/
structure GivenOption where
  option : CommandOption
  flag : String
  attached : Option (List Char)
  deriving DecidableEq, Repr

inductive WordKind where
  | argument
  | terminator
  | unknownOption
  | option (given : GivenOption)
  deriving DecidableEq, Repr

structure Word where
  text : String
  kind : WordKind
  deriving DecidableEq, Repr

def Word.isOption (word : Word) : Bool :=
  match word.kind with
  | .unknownOption | .option _ => true
  | _ => false

namespace Grammar

def flags (grammar : Grammar) : List (String × CommandOption) :=
  grammar.options.flatMap fun option => option.flags.map (·, option)

def option? (grammar : Grammar) (flag : String) : Option CommandOption :=
  grammar.flags.lookup flag

/-- What stands before the first equals sign of a word, and what stands after it. -/
def splitEquals (word : List Char) : List Char × Option (List Char) :=
  match word.dropWhile (· ≠ '=') with
  | [] => (word, none)
  | _ :: rest => (word.takeWhile (· ≠ '='), some rest)

/-- The options that a word may mean in a shortened or combined form. -/
def candidates (grammar : Grammar) (word : List Char) : List GivenOption :=
  match word with
  | '-' :: '-' :: _ =>
    let (start, attached) := splitEquals word
    (grammar.flags.filter fun entry => start.isPrefixOf entry.1.toList).map
      fun (flag, option) => ⟨option, flag, attached⟩
  | '-' :: c :: rest =>
    grammar.flags.filterMap fun (flag, option) =>
      if flag.toList = ['-', c] then some ⟨option, flag, some rest⟩
      else if word.isPrefixOf flag.toList then some ⟨option, flag, none⟩
      else none
  | _ => []

def isNegativeNumber (word : List Char) : Bool :=
  match Text.withoutLastBreak word with
  | '-' :: digits =>
    let whole := digits.takeWhile Text.isDecimalDigit
    match digits.dropWhile Text.isDecimalDigit with
    | [] => !whole.isEmpty
    | '.' :: fraction => !fraction.isEmpty && fraction.all Text.isDecimalDigit
    | _ => false
  | _ => false

/-- What a word is, in front of any terminator. -/
def classify (grammar : Grammar) (text : String) : Except Halt WordKind :=
  let word := text.toList
  if word.head? != some '-' then .ok .argument
  else
    match grammar.option? text with
    | some option => .ok (.option ⟨option, text, none⟩)
    | none =>
      let (start, attached) := splitEquals word
      match word, attached.bind fun _ => grammar.option? (String.ofList start) with
      | ['-'], _ => .ok .argument
      | _, some option => .ok (.option ⟨option, String.ofList start, attached⟩)
      | _, none =>
        match grammar.candidates word with
        | [given] => .ok (.option given)
        | [] =>
          .ok (if isNegativeNumber word || word.contains ' ' then .argument else .unknownOption)
        | several => .error (.misuse (.ambiguous text (several.map GivenOption.flag)))

/-- What each word is. After two hyphens all words are arguments. -/
def words (grammar : Grammar) : List String → Except Halt (List Word)
  | [] => .ok []
  | text :: rest =>
    if text = "--" then .ok (⟨text, .terminator⟩ :: rest.map fun later => ⟨later, .argument⟩)
    else do
      let kind ← grammar.classify text
      return ⟨text, kind⟩ :: (← grammar.words rest)

end Grammar

inductive SingleArgument where
  | text (content : String)
  /-- Two hyphens, written in one word with the option, are dropped like anywhere else. -/
  | dropped
  deriving DecidableEq, Repr

/-- What arguments say: the options with their arguments in order, the arguments of the positional
if it has been met, and those that nothing takes. -/
structure Arguments where
  given : List (CommandOption × List String)
  positional : Option (List String)
  extras : List String
  deriving DecidableEq, Repr

namespace Arguments

def empty : Arguments :=
  ⟨[], none, []⟩

/-- Notes an option with its arguments, or ends the command. -/
def note (arguments : Arguments) (option : CommandOption) (values : List String) :
    Except Halt Arguments :=
  match option.effect with
  | .note => .ok { arguments with given := arguments.given ++ [(option, values)] }
  | .help => .error .help
  | .version => .error .version

def noteAll (arguments : Arguments) (options : List CommandOption) : Except Halt Arguments :=
  options.foldlM (fun current option => current.note option []) arguments

def addExtras (arguments : Arguments) (words : List Word) : Arguments :=
  { arguments with extras := arguments.extras ++ words.map Word.text }

def has (arguments : Arguments) (flag : String) : Bool :=
  arguments.given.any fun entry => entry.1.flags.contains flag

def count (arguments : Arguments) (flag : String) : Nat :=
  (arguments.given.filter fun entry => entry.1.flags.contains flag).length

def last? (arguments : Arguments) (flag : String) : Option (List String) :=
  (arguments.given.reverse.find? fun entry => entry.1.flags.contains flag).map Prod.snd

def value? (arguments : Arguments) (flag : String) : Option SingleArgument :=
  (arguments.last? flag).map fun
    | [] => .dropped
    | content :: _ => .text content

end Arguments

/-- Options that are written together: those before the last, and the last. -/
inductive Cluster where
  /-- The last option takes its arguments from the words that follow. -/
  | open (before : List CommandOption) (last : CommandOption)
  /-- The last option has its argument in the same word. -/
  | closed (before : List CommandOption) (last : CommandOption) (argument : String)

/-- The options in one word: the first one, and those among what is attached to it. Letters that
are no option are an argument that nothing takes. -/
def cluster (grammar : Grammar) (before : List CommandOption) (long : Bool)
    (option : CommandOption) (attached : List Char) : Except Halt Cluster :=
  let ignored : Except Halt Cluster :=
    .error (.misuse (.ignoredArgument option.label (String.ofList attached)))
  if option.arity ≠ .none then .ok (.closed before option (String.ofList attached))
  else
    match attached with
    | [] => ignored
    | c :: rest =>
      match if long then none else grammar.option? (String.ofList ['-', c]) with
      | none => ignored
      | some next =>
        if rest.isEmpty then .ok (.open (before ++ [option]) next)
        else cluster grammar (before ++ [option]) false next rest

namespace Grammar

def positionalSize (positional : Positional) (words : List Word) : Nat :=
  let leading := (words.takeWhile (·.kind = .terminator)).length
  let isArgument (word : Word) : Bool := word.kind = .argument
  match positional with
  | .many => (words.takeWhile (!·.isOption)).length
  | .one _ =>
    if (words.drop leading).head?.any isArgument then
      leading + 1 + ((words.drop (leading + 1)).takeWhile (·.kind = .terminator)).length
    else 0
  | .command _ => if (words.drop leading).head?.any isArgument then words.length else 0

/-- The texts of the words that the positional takes. A terminator is not one of them, but a
command takes it. -/
def positionalTexts (positional : Positional) (words : List Word) : List String :=
  match positional with
  | .command _ => words.map Word.text
  | _ => (words.map Word.text).erase "--"

/-- Takes words for the positional, unless it has been met. -/
def takePositional (grammar : Grammar) (arguments : Arguments) (words : List Word) :
    Arguments × List Word :=
  match arguments.positional with
  | some _ => (arguments, words)
  | none =>
    let size := positionalSize grammar.positional words
    if size = 0 && grammar.positional ≠ .many then (arguments, words)
    else
      ({ arguments with positional := some (positionalTexts grammar.positional (words.take size)) },
        words.drop size)

def optionTexts (option : CommandOption) (words : List Word) :
    Except Halt (List String × List Word) :=
  let run := words.takeWhile (·.kind = .argument)
  match option.arity with
  | .none => .ok ([], words)
  | .one =>
    if run.isEmpty then .error (.misuse (.oneExpected option.label))
    else .ok ((run.take 1).map Word.text, words.drop 1)
  | .some =>
    if run.isEmpty then .error (.misuse (.someExpected option.label))
    else .ok (run.map Word.text, words.drop run.length)

/-- Takes an option and its arguments. Options that are written together act only once the last
of them has its arguments. -/
def takeGiven (grammar : Grammar) (arguments : Arguments) (given : GivenOption)
    (words : List Word) : Except Halt (Arguments × List Word) := do
  match given.attached with
  | none =>
    let (texts, left) ← optionTexts given.option words
    return (← arguments.note given.option texts, left)
  | some attached =>
    let long := "--".toList.isPrefixOf given.flag.toList
    match ← cluster grammar [] long given.option attached with
    | .open before last =>
      let (texts, left) ← optionTexts last words
      return (← (← arguments.noteAll before).note last texts, left)
    | .closed before last argument =>
      return (← (← arguments.noteAll before).note last ([argument].erase "--"), words)

/-- Reads words from the front, given how many may still be read. -/
def readWords (grammar : Grammar) : Nat → Arguments → List Word → Except Halt Arguments
  | 0, arguments, _ => .ok arguments
  | limit + 1, arguments, words =>
    if !words.any Word.isOption then
      let (last, rest) := grammar.takePositional arguments words
      .ok (last.addExtras rest)
    else
      match words with
      | [] => .ok arguments
      | word :: rest =>
        match word.kind with
        | .option given =>
          match grammar.takeGiven arguments given rest with
          | .error halt => .error halt
          | .ok (next, left) => grammar.readWords limit next left
        | .unknownOption => grammar.readWords limit (arguments.addExtras [word]) rest
        | _ =>
          let (next, left) := grammar.takePositional arguments words
          if left.length < words.length then grammar.readWords limit next left
          else
            grammar.readWords limit (arguments.addExtras (words.takeWhile (!·.isOption)))
              (words.dropWhile (!·.isOption))

def read (grammar : Grammar) (texts : List String) : Except Halt Arguments := do
  let words ← grammar.words texts
  let arguments ← grammar.readWords (words.length + 1) .empty words
  match arguments.positional, grammar.positional.requiredName? with
  | none, some name => .error (.misuse (.missing name))
  | _, _ => return arguments

end Grammar

end PrismaNest
