import PrismaNest.Naming.Identifier
import PrismaNest.Schema.Basic
import PrismaNest.Schema.Block
import PrismaNest.Text.Quoted

/-! Reading a schema from its text.

A field line gives a name and a type token; what follows them is ignored. Lines
that give no field or no enumeration value are dropped, and a type that is
neither a scalar nor a declared enumeration becomes an open object. Reading never
fails; what was dropped or replaced is listed in the remarks.
-/

set_option autoImplicit false

namespace PrismaNest

inductive Remark where
  | noType (line : String)
  | noField (line : String)
  | emptyType (line : String)
  | noValue (line : String)
  | unknownType (token : String)
  deriving DecidableEq, Repr

def Remark.message : Remark → String
  | .noType line => "Dropping field line without a type: " ++ Text.quoted line
  | .noField line => "Dropping non-field line: " ++ Text.quoted line
  | .emptyType line => "Dropping field line with empty type: " ++ Text.quoted line
  | .noValue line => "Dropping non-value enum line: " ++ Text.quoted line
  | .unknownType token => "Unknown type token '" ++ token ++ "' - using open object."

structure ScalarType where
  tsType : String
  check : String
  deriving DecidableEq, Repr

namespace ScalarType

def openObject : ScalarType :=
  ⟨"Record<string, any>", "IsObject"⟩

def table : List (String × ScalarType) :=
  [("String", ⟨"string", "IsString"⟩),
   ("Int", ⟨"number", "IsInt"⟩),
   ("Boolean", ⟨"boolean", "IsBoolean"⟩),
   ("DateTime", ⟨"Date", "IsDate"⟩),
   ("Float", ⟨"number", "IsNumber"⟩),
   ("Decimal", ⟨"number", "IsNumber"⟩),
   ("Json", openObject)]

def ofToken? (token : String) : Option ScalarType :=
  table.lookup token

/-- The scalar of a type token; an unknown token stands for an open object. -/
def ofToken (token : String) : ScalarType :=
  (ofToken? token).getD openObject

end ScalarType

/-- A text without its pairs of brackets, found from left to right. -/
def withoutBrackets : List Char → List Char
  | [] => []
  | '[' :: ']' :: rest => withoutBrackets rest
  | c :: rest => c :: withoutBrackets rest

/-- What the markers of a type token say: optional, array, and the type without them. -/
structure TypeToken where
  raw : List Char
  base : List Char
  isOptional : Bool
  isArray : Bool
  deriving DecidableEq, Repr

/-- Markers are read off the token as written, so `Float[]?` is optional but no array. -/
def TypeToken.ofRaw (raw : List Char) : TypeToken where
  raw := raw
  base := withoutBrackets (raw.filter (· ≠ '?'))
  isOptional := raw.contains '?'
  isArray := "[]".toList.isSuffixOf raw

def exposureFor (isOptional isArray : Bool) (enumName : Option String) : String :=
  let decorator := if isOptional then "ApiPropertyOptional" else "ApiProperty"
  let options := (enumName.map ("enum: " ++ ·)).toList
    ++ (if isArray then ["isArray: true"] else [])
  if options.isEmpty then decorator ++ "()"
  else decorator ++ "(\x7b " ++ String.intercalate ", " options ++ " \x7d)"

def Field.ofType (enumNames : List String) (name : String) (type : TypeToken) : Field :=
  let base := String.ofList type.base
  let isEnum := enumNames.contains base
  let scalar := ScalarType.ofToken base
  let tsType := if isEnum then base else scalar.tsType
  { name
    rawType := String.ofList type.raw
    baseType := base
    isOptional := type.isOptional
    isArray := type.isArray
    isEnum
    tsType := if type.isArray then tsType ++ "[]" else tsType
    checks :=
      (if type.isOptional then ["IsOptional()"] else [])
        ++ [if isEnum then "IsEnum(" ++ base ++ ")" else scalar.check ++ "()"]
        ++ (if type.isArray then ["IsArray()"] else [])
    exposure := exposureFor type.isOptional type.isArray (if isEnum then some base else none) }

/-- The field that a line declares, or why it declares none. -/
def Field.ofLine (enumNames : List String) (line : List Char) : Except Remark Field :=
  match Text.tokens line with
  | name :: raw :: _ =>
    let type := TypeToken.ofRaw raw
    if !Naming.isIdentifier name then .error (.noField (String.ofList line))
    else if type.base.isEmpty then .error (.emptyType (String.ofList line))
    else .ok (Field.ofType enumNames (String.ofList name) type)
  | _ => .error (.noType (String.ofList line))

def Field.remarks (enumNames : List String) (line : List Char) : List Remark :=
  match Field.ofLine enumNames line with
  | .error remark => [remark]
  | .ok field =>
    if !field.isEnum && (ScalarType.ofToken? field.baseType).isNone then
      [.unknownType field.baseType]
    else []

/-- The enumeration value on a line: its first token, if that is an identifier. -/
def enumValue (line : List Char) : Except Remark String :=
  let token := (Text.tokens line).headD []
  if Naming.isIdentifier token then .ok (String.ofList token)
  else .error (.noValue (String.ofList line))

def Enumeration.ofBody (name : String) (body : List Char) : Enumeration where
  name := name
  values := (bodyLines body).filterMap fun line => (enumValue line).toOption

def Enumeration.remarks (body : List Char) : List Remark :=
  (bodyLines body).filterMap fun line =>
    match enumValue line with
    | .ok _ => none
    | .error remark => some remark

def Model.ofBody (enumNames : List String) (name : String) (body : List Char) : Model where
  name := name
  fields := (bodyLines body).filterMap fun line => (Field.ofLine enumNames line).toOption

def Model.remarks (enumNames : List String) (body : List Char) : List Remark :=
  (bodyLines body).flatMap (Field.remarks enumNames)

namespace Schema

/-- The enumerations of a text, which are known to all of its models. -/
def enumsOf (text : List Char) : List Enumeration :=
  (Block.enums text).map fun block => .ofBody (String.ofList block.name) block.body

def ofText (text : String) (source : Option String) : Schema :=
  let enums := enumsOf text.toList
  { models := (Block.models text.toList).map fun block =>
      .ofBody (enums.map Enumeration.name) (String.ofList block.name) block.body
    enums
    source }

/-- What reading a text has to remark: the enumerations first, then the models. -/
def remarks (text : String) : List Remark :=
  let enumNames := (enumsOf text.toList).map Enumeration.name
  (Block.enums text.toList).flatMap (fun block => Enumeration.remarks block.body)
    ++ (Block.models text.toList).flatMap (fun block => Model.remarks enumNames block.body)

end Schema

end PrismaNest
