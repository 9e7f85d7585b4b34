import PrismaNest.Proofs.Yaml.Trees
import PrismaNest.Data.Json.Reader

/-! Texts that are JSON and YAML at once.

A portable text is JSON with limits. Between its parts stand spaces and line feeds only. A string
shows only characters that a YAML text may hold and that end no line, and escapes only whole
characters. A number with an exponent has a point and a sign in its exponent. A key and its colon
stand on one line, at most 1024 characters apart. A number that is none, and an infinite one, cannot
be written.
-/

set_option autoImplicit false

namespace PrismaNest.Portable

/-- What may stand between the parts of a text. -/
structure Gap where
  chars : List Char
  blank : ∀ c ∈ chars, c = ' ' ∨ c = '\n'

/-- The characters that can stand for themselves between quotes. -/
def isShown (c : Char) : Bool :=
  0x20 ≤ c.toNat && Yaml.isAllowed c && !Yaml.isBreak c && c ≠ '\u0085' && c ≠ '"' && c ≠ '\\'

def isSurrogate (code : Nat) : Bool :=
  Text.isHighSurrogate code || Text.isLowSurrogate code

/-- A character of a string as it is written: as it is, by a letter, or by its code point. -/
inductive Piece where
  | shown (c : Char) (plain : isShown c = true)
  | letter (mark c : Char) (meant : Json.simpleEscape? mark = some c)
  | code (first second third fourth : Char) (point : Nat)
    (spelled : Json.codePoint? first second third fourth = some point)
    (whole : isSurrogate point = false)

namespace Piece

def text : Piece → List Char
  | .shown c _ => [c]
  | .letter mark _ _ => ['\\', mark]
  | .code first second third fourth _ _ _ => ['\\', 'u', first, second, third, fourth]

def meant : Piece → Char
  | .shown c _ => c
  | .letter _ c _ => c
  | .code _ _ _ _ point _ _ => Text.charOf point

end Piece

structure Digits where
  chars : List Char
  all : ∀ c ∈ chars, c.isDigit = true
  written : chars ≠ []

/-- The digits in front of a point, without a zero that could be left out. -/
structure Whole extends Digits where
  exact : chars = ['0'] ∨ chars.head? ≠ some '0'

structure Exponent where
  capital : Bool
  negative : Bool
  digits : Digits

namespace Exponent

def text (exponent : Exponent) : List Char :=
  (if exponent.capital then 'E' else 'e') :: (if exponent.negative then '-' else '+') ::
    exponent.digits.chars

def value (exponent : Exponent) : Int :=
  let size : Int := (Text.digitsValue? 10 exponent.digits.chars).getD 0
  if exponent.negative then -size else size

end Exponent

inductive Numeral where
  | whole (negative : Bool) (digits : Whole)
  | real (negative : Bool) (digits : Whole) (fraction : Digits) (exponent : Option Exponent)

namespace Numeral

def sign (negative : Bool) : List Char :=
  if negative then ['-'] else []

def text : Numeral → List Char
  | .whole negative digits => sign negative ++ digits.chars
  | .real negative digits fraction exponent => sign negative ++ digits.chars ++
      '.' :: (fraction.chars ++ (exponent.map Exponent.text).getD [])

def parts : Numeral → Json.NumberText
  | .whole negative digits => ⟨negative, digits.chars, [], none⟩
  | .real negative digits fraction exponent =>
    ⟨negative, digits.chars, fraction.chars, exponent.map Exponent.value⟩

end Numeral

structure Key where
  before : Gap
  pieces : List Piece
  /-- The spaces in front of the colon. -/
  spaces : Nat
  short : (pieces.flatMap Piece.text).length + spaces + 2 ≤ 1024

def written (pieces : List Piece) : List Char :=
  '"' :: (pieces.flatMap Piece.text ++ ['"'])

def content (pieces : List Piece) : String :=
  String.ofList (pieces.map Piece.meant)

namespace Key

def text (key : Key) : List Char :=
  key.before.chars ++ written key.pieces ++ List.replicate key.spaces ' ' ++ [':']

def name (key : Key) : String :=
  content key.pieces

end Key

/-- A portable text by its parts. -/
inductive Source where
  | null
  | bool (flag : Bool)
  | number (numeral : Numeral)
  | string (pieces : List Piece)
  | array (inside : Gap) (items : List Source)
  | object (inside : Gap) (entries : List (Key × Source))
  | spaced (before : Gap) (source : Source) (after : Gap)

namespace Source

theorem induct {motive : Source → Prop} (null : motive .null) (bool : ∀ flag, motive (.bool flag))
    (number : ∀ numeral, motive (.number numeral)) (string : ∀ pieces, motive (.string pieces))
    (array : ∀ inside items, (∀ item ∈ items, motive item) → motive (.array inside items))
    (object : ∀ inside entries, (∀ entry ∈ entries, motive entry.2) →
      motive (.object inside entries))
    (spaced : ∀ before source after, motive source → motive (.spaced before source after))
    (source : Source) : motive source :=
  match source with
  | .null => null
  | .bool flag => bool flag
  | .number numeral => number numeral
  | .string pieces => string pieces
  | .array inside items => array inside items fun item _ =>
      induct null bool number string array object spaced item
  | .object inside entries => object inside entries fun entry _ =>
      induct null bool number string array object spaced entry.2
  | .spaced before source after => spaced before source after
      (induct null bool number string array object spaced source)
termination_by sizeOf source
decreasing_by
  · rename_i member
    have smaller := List.sizeOf_lt_of_mem member
    simp only [Source.array.sizeOf_spec]
    omega
  · rename_i member
    have smaller := List.sizeOf_lt_of_mem member
    obtain ⟨key, value⟩ := entry
    simp only [Source.object.sizeOf_spec, Prod.mk.sizeOf_spec] at smaller ⊢
    omega
  · simp only [Source.spaced.sizeOf_spec]
    omega

/-! ### What is written -/

mutual

def text : Source → List Char
  | .null => "null".toList
  | .bool flag => (if flag then "true" else "false").toList
  | .number numeral => numeral.text
  | .string pieces => written pieces
  | .array inside [] => '[' :: (inside.chars ++ [']'])
  | .array inside (item :: items) => '[' :: (inside.chars ++ item.text ++ furtherItems items)
  | .object inside [] => '\x7b' :: (inside.chars ++ ['\x7d'])
  | .object inside ((key, value) :: entries) =>
    '\x7b' :: (inside.chars ++ key.text ++ value.text ++ furtherEntries entries)
  | .spaced before source after => before.chars ++ source.text ++ after.chars

/-- The text of items after another one, and of the bracket behind them. -/
def furtherItems : List Source → List Char
  | [] => [']']
  | item :: items => ',' :: (item.text ++ furtherItems items)

def furtherEntries : List (Key × Source) → List Char
  | [] => ['\x7d']
  | (key, value) :: entries => ',' :: (key.text ++ value.text ++ furtherEntries entries)

end

/-! ### What it stands for -/

mutual

/-- The document that a text stands for, unless a whole number in it is too long. -/
def document : Source → Option Json
  | .null => some .null
  | .bool flag => some (.bool flag)
  | .number numeral => numeral.parts.toJson.toOption
  | .string pieces => some (.string (content pieces))
  | .array _ items => (documents items).map .array
  | .object _ entries => (namedDocuments entries).map fun entries => .object (putEntries [] entries)
  | .spaced _ source _ => source.document

def documents : List Source → Option (List Json)
  | [] => some []
  | item :: items => do
    let first ← item.document
    let others ← documents items
    return first :: others

def namedDocuments : List (Key × Source) → Option (List (String × Json))
  | [] => some []
  | (key, value) :: entries => do
    let first ← value.document
    let others ← namedDocuments entries
    return (key.name, first) :: others

end

mutual

/-- A text as a document in brackets. -/
def tree : Source → Yaml.Tree
  | .null => .scalar "null" true
  | .bool flag => .scalar (if flag then "true" else "false") true
  | .number numeral => .scalar (String.ofList numeral.text) true
  | .string pieces => .scalar (content pieces) false
  | .array _ items => .sequence (trees items)
  | .object _ entries => .mapping (namedTrees entries)
  | .spaced _ source _ => source.tree

def trees : List Source → List Yaml.Tree
  | [] => []
  | item :: items => item.tree :: trees items

def namedTrees : List (Key × Source) → List (String × Yaml.Tree)
  | [] => []
  | (key, value) :: entries => (key.name, value.tree) :: namedTrees entries

end

end Source

end PrismaNest.Portable
