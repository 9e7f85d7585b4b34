import PrismaNest.Yaml.Graph
import PrismaNest.Yaml.Token.Lexer

/-! The graph that the tokens of a document spell.

A node is an alias or a content: a scalar, a sequence or a mapping, with an anchor
and a tag if they are given. A node that is left out is an empty plain scalar. Every
function takes tokens off the front and gives those that are left, which are fewer.
-/

set_option autoImplicit false

namespace PrismaNest.Yaml

structure Properties where
  anchor : Option String
  tag : Option String
  deriving DecidableEq, Repr

namespace Properties

def absent : Properties :=
  ⟨.none, .none⟩

/-- The tag that is given, unless it leaves the choice to the content. -/
def tag? (properties : Properties) : Option Tag :=
  (properties.tag.filter (· ≠ "!")).map Tag.ofName

def scalarTag (properties : Properties) (text : String) (plain : Bool) : Tag :=
  match properties.tag? with
  | some tag => tag
  | none => if plain || properties.tag.isSome then Tag.ofPlain text else .text

end Properties

def Graph.addScalar (graph : Graph) (properties : Properties) (text : String) (plain : Bool) :
    Read (NodeId × Graph) :=
  graph.add properties.anchor ⟨properties.scalarTag text plain, .scalar text⟩

abbrev TagHandles := List (String × String)

def standardHandles : TagHandles :=
  [("!", "!"), ("!!", "tag:yaml.org,2002:")]

/-- Refuses tokens that cannot come next. Where the text could not be read on, that counts. -/
def refuse {α : Type} : List Token → Read α
  | .unreadable fault :: _ => .error fault
  | _ => malformed

/-- What may be left of some tokens after something was taken off their front. -/
abbrev Fewer (tokens : List Token) := { rest : List Token // rest.length < tokens.length }

/-- What may be left if nothing need be taken. -/
abbrev NotMore (tokens : List Token) := { rest : List Token // rest.length ≤ tokens.length }

/-- What was taken off the front of some tokens, the graph after it, and what is left. -/
abbrev Part (α : Type) (tokens : List Token) := Read (α × Graph × Fewer tokens)

/-- The same for what may be left out. -/
abbrev OptionalPart (α : Type) (tokens : List Token) := Read (α × Graph × NotMore tokens)

def fullTag (handles : TagHandles) (handle : Option String) (suffix : String) : Read String :=
  match handle with
  | none => .ok suffix
  | some handle =>
    match handles.lookup handle with
    | none => malformed
    | some start => .ok (start ++ suffix)

def takeProperties (handles : TagHandles) (tokens : List Token) :
    Read (Properties × NotMore tokens) :=
  match tokens with
  | .tag _ _ :: .unreadable fault :: _ => .error fault
  | .anchor name :: .tag handle suffix :: rest
  | .tag handle suffix :: .anchor name :: rest =>
    (fullTag handles handle suffix).map fun tag =>
      (⟨some name, some tag⟩, ⟨rest, by simp only [List.length_cons]; omega⟩)
  | .anchor name :: rest => .ok (⟨some name, none⟩, ⟨rest, by simp⟩)
  | .tag handle suffix :: rest =>
    (fullTag handles handle suffix).map fun tag => (⟨none, some tag⟩, ⟨rest, by simp⟩)
  | rest => .ok (.absent, ⟨rest, Nat.le_refl _⟩)

def nextIs (stops : List Token) (tokens : List Token) : Bool :=
  tokens.head?.any stops.contains

mutual

/-- A node; `block` allows block collections, and `indentless` a sequence that is not indented. -/
def takeNode (handles : TagHandles) (block indentless : Bool) (graph : Graph)
    (tokens : List Token) : Part NodeId tokens :=
  match tokens with
  | .alias name :: rest =>
    (graph.anchored name).map fun node => (node, graph, ⟨rest, by simp⟩)
  | tokens =>
    match takeProperties handles tokens with
    | .error fault => .error fault
    | .ok (properties, after) =>
      have bound := after.2
      match read : after.1 with
      | .scalar text plain :: rest =>
        (graph.addScalar properties text plain).map fun (node, next) =>
          (node, next, ⟨rest, by simp only [read, List.length_cons] at bound; omega⟩)
      | .flowSequenceStart :: rest =>
        have shorter : rest.length < tokens.length := by
          simp only [read, List.length_cons] at bound; omega
        match graph.add properties.anchor ⟨properties.tag?.getD .sequence, .sequence []⟩ with
        | .error fault => .error fault
        | .ok (node, opened) =>
          match takeFlowItems handles opened rest with
          | .error fault => .error fault
          | .ok (items, filled, last) =>
            .ok (node, filled.fill node (.sequence items), ⟨last.1, Nat.lt_trans last.2 shorter⟩)
      | .flowMappingStart :: rest =>
        have shorter : rest.length < tokens.length := by
          simp only [read, List.length_cons] at bound; omega
        match graph.add properties.anchor ⟨properties.tag?.getD .mapping, .mapping []⟩ with
        | .error fault => .error fault
        | .ok (node, opened) =>
          match takeFlowEntries handles opened rest with
          | .error fault => .error fault
          | .ok (entries, filled, last) =>
            .ok (node, filled.fill node (.mapping entries), ⟨last.1, Nat.lt_trans last.2 shorter⟩)
      | .blockEntry :: rest =>
        have shorter : rest.length < tokens.length := by
          simp only [read, List.length_cons] at bound; omega
        if indentless then
          match graph.add properties.anchor ⟨properties.tag?.getD .sequence, .sequence []⟩ with
          | .error fault => .error fault
          | .ok (node, opened) =>
            match takeIndentlessItems handles opened rest with
            | .error fault => .error fault
            | .ok (items, filled, last) =>
              .ok (node, filled.fill node (.sequence items),
                ⟨last.1, Nat.lt_of_le_of_lt last.2 shorter⟩)
        else if emptied : rest.length + 1 < tokens.length then
          (graph.addScalar properties "" properties.tag.isNone).map fun (node, next) =>
            (node, next, ⟨.blockEntry :: rest, by simpa using emptied⟩)
        else malformed
      | .blockSequenceStart :: rest =>
        have shorter : rest.length < tokens.length := by
          simp only [read, List.length_cons] at bound; omega
        if block then
          match graph.add properties.anchor ⟨properties.tag?.getD .sequence, .sequence []⟩ with
          | .error fault => .error fault
          | .ok (node, opened) =>
            match takeBlockItems handles opened rest with
            | .error fault => .error fault
            | .ok (items, filled, last) =>
              .ok (node, filled.fill node (.sequence items),
                ⟨last.1, Nat.lt_trans last.2 shorter⟩)
        else malformed
      | .blockMappingStart :: rest =>
        have shorter : rest.length < tokens.length := by
          simp only [read, List.length_cons] at bound; omega
        if block then
          match graph.add properties.anchor ⟨properties.tag?.getD .mapping, .mapping []⟩ with
          | .error fault => .error fault
          | .ok (node, opened) =>
            match takeBlockEntries handles opened rest with
            | .error fault => .error fault
            | .ok (entries, filled, last) =>
              .ok (node, filled.fill node (.mapping entries),
                ⟨last.1, Nat.lt_trans last.2 shorter⟩)
        else malformed
      | .unreadable fault :: _ => .error fault
      | rest =>
        if given : rest.length < tokens.length then
          (graph.addScalar properties "" properties.tag.isNone).map fun (node, next) =>
            (node, next, ⟨rest, given⟩)
        else malformed
termination_by (tokens.length, 0)

def takeBlockItems (handles : TagHandles) (graph : Graph) (tokens : List Token) :
    Part (List NodeId) tokens :=
  match tokens with
  | .blockEnd :: rest => .ok ([], graph, ⟨rest, by simp⟩)
  | .blockEntry :: rest =>
    match takeOptional handles true false [.blockEntry, .blockEnd] graph rest with
    | .error fault => .error fault
    | .ok (item, next, after) =>
      have bound := after.2
      match takeBlockItems handles next after.1 with
      | .error fault => .error fault
      | .ok (items, filled, last) =>
        .ok (item :: items, filled, ⟨last.1, by
          have := last.2; simp only [List.length_cons]; omega⟩)
  | tokens => refuse tokens
termination_by (tokens.length, 0)

def takeIndentlessItems (handles : TagHandles) (graph : Graph) (tokens : List Token) :
    OptionalPart (List NodeId) tokens :=
  match takeOptional handles true false [.blockEntry, .key, .value, .blockEnd] graph tokens with
  | .error fault => .error fault
  | .ok (item, next, after) =>
    have bound := after.2
    match read : after.1 with
    | .blockEntry :: rest =>
      have shorter : rest.length < tokens.length := by
        simp only [read, List.length_cons] at bound; omega
      match takeIndentlessItems handles next rest with
      | .error fault => .error fault
      | .ok (items, filled, last) =>
        .ok (item :: items, filled, ⟨last.1, by have := last.2; omega⟩)
    | rest => .ok ([item], next, ⟨rest, by rw [read] at bound; exact bound⟩)
termination_by (tokens.length, 2)

def takeBlockEntries (handles : TagHandles) (graph : Graph) (tokens : List Token) :
    Part (List (NodeId × NodeId)) tokens :=
  match tokens with
  | .blockEnd :: rest => .ok ([], graph, ⟨rest, by simp⟩)
  | .key :: rest =>
    match takeOptional handles true true [.key, .value, .blockEnd] graph rest with
    | .error fault => .error fault
    | .ok (key, withKey, afterKey) =>
      have keyBound := afterKey.2
      match takeValue handles true [.key, .value, .blockEnd] withKey afterKey.1 with
      | .error fault => .error fault
      | .ok (value, next, afterValue) =>
        have valueBound := afterValue.2
        match takeBlockEntries handles next afterValue.1 with
        | .error fault => .error fault
        | .ok (entries, filled, last) =>
          .ok ((key, value) :: entries, filled, ⟨last.1, by
            have := last.2; simp only [List.length_cons]; omega⟩)
  | tokens => refuse tokens
termination_by (tokens.length, 0)

def takeFlowItems (handles : TagHandles) (graph : Graph) (tokens : List Token) :
    Part (List NodeId) tokens :=
  match tokens with
  | .flowSequenceEnd :: rest => .ok ([], graph, ⟨rest, by simp⟩)
  | .key :: rest =>
    match takeOptional handles false false [.value, .flowEntry, .flowSequenceEnd] graph rest with
    | .error fault => .error fault
    | .ok (key, withKey, afterKey) =>
      have keyBound := afterKey.2
      match takeValue handles false [.flowEntry, .flowSequenceEnd] withKey afterKey.1 with
      | .error fault => .error fault
      | .ok (value, withValue, afterValue) =>
        have valueBound := afterValue.2
        match withValue.add none ⟨.mapping, .mapping [(key, value)]⟩ with
        | .error fault => .error fault
        | .ok (item, next) =>
          match takeMoreItems handles next afterValue.1 with
          | .error fault => .error fault
          | .ok (items, filled, last) =>
            .ok (item :: items, filled, ⟨last.1, by
              have := last.2; simp only [List.length_cons]; omega⟩)
  | tokens =>
    match takeNode handles false false graph tokens with
    | .error fault => .error fault
    | .ok (item, next, after) =>
      have bound := after.2
      match takeMoreItems handles next after.1 with
      | .error fault => .error fault
      | .ok (items, filled, last) =>
        .ok (item :: items, filled, ⟨last.1, by have := last.2; omega⟩)
termination_by (tokens.length, 1)

def takeMoreItems (handles : TagHandles) (graph : Graph) (tokens : List Token) :
    Part (List NodeId) tokens :=
  match tokens with
  | .flowSequenceEnd :: rest => .ok ([], graph, ⟨rest, by simp⟩)
  | .flowEntry :: rest =>
    match takeFlowItems handles graph rest with
    | .error fault => .error fault
    | .ok (items, filled, last) =>
      .ok (items, filled, ⟨last.1, by have := last.2; simp only [List.length_cons]; omega⟩)
  | tokens => refuse tokens
termination_by (tokens.length, 0)

def takeFlowEntries (handles : TagHandles) (graph : Graph) (tokens : List Token) :
    Part (List (NodeId × NodeId)) tokens :=
  match tokens with
  | .flowMappingEnd :: rest => .ok ([], graph, ⟨rest, by simp⟩)
  | .key :: rest =>
    match takeOptional handles false false [.value, .flowEntry, .flowMappingEnd] graph rest with
    | .error fault => .error fault
    | .ok (key, withKey, afterKey) =>
      have keyBound := afterKey.2
      match takeValue handles false [.flowEntry, .flowMappingEnd] withKey afterKey.1 with
      | .error fault => .error fault
      | .ok (value, next, afterValue) =>
        have valueBound := afterValue.2
        match takeMoreEntries handles next afterValue.1 with
        | .error fault => .error fault
        | .ok (entries, filled, last) =>
          .ok ((key, value) :: entries, filled, ⟨last.1, by
            have := last.2; simp only [List.length_cons]; omega⟩)
  | tokens =>
    match takeNode handles false false graph tokens with
    | .error fault => .error fault
    | .ok (key, withKey, after) =>
      have bound := after.2
      let (value, next) := withKey.addEmpty
      match takeMoreEntries handles next after.1 with
      | .error fault => .error fault
      | .ok (entries, filled, last) =>
        .ok ((key, value) :: entries, filled, ⟨last.1, by have := last.2; omega⟩)
termination_by (tokens.length, 1)

def takeMoreEntries (handles : TagHandles) (graph : Graph) (tokens : List Token) :
    Part (List (NodeId × NodeId)) tokens :=
  match tokens with
  | .flowMappingEnd :: rest => .ok ([], graph, ⟨rest, by simp⟩)
  | .flowEntry :: rest =>
    match takeFlowEntries handles graph rest with
    | .error fault => .error fault
    | .ok (entries, filled, last) =>
      .ok (entries, filled, ⟨last.1, by have := last.2; simp only [List.length_cons]; omega⟩)
  | tokens => refuse tokens
termination_by (tokens.length, 0)

/-- A node, or an empty one if one of some tokens comes next. -/
def takeOptional (handles : TagHandles) (block indentless : Bool) (stops : List Token)
    (graph : Graph) (tokens : List Token) : OptionalPart NodeId tokens :=
  if nextIs stops tokens then
    let (node, next) := graph.addEmpty
    .ok (node, next, ⟨tokens, Nat.le_refl _⟩)
  else
    match takeNode handles block indentless graph tokens with
    | .error fault => .error fault
    | .ok (node, next, rest) => .ok (node, next, ⟨rest.1, Nat.le_of_lt rest.2⟩)
termination_by (tokens.length, 1)

def takeValue (handles : TagHandles) (block : Bool) (stops : List Token) (graph : Graph)
    (tokens : List Token) : OptionalPart NodeId tokens :=
  match tokens with
  | .value :: rest =>
    match takeOptional handles block block stops graph rest with
    | .error fault => .error fault
    | .ok (node, next, last) =>
      .ok (node, next, ⟨last.1, by have := last.2; simp only [List.length_cons]; omega⟩)
  | tokens =>
    let (node, next) := graph.addEmpty
    .ok (node, next, ⟨tokens, Nat.le_refl _⟩)
termination_by (tokens.length, 2)

end

/-- Directives in front of a document: the handles that they declare. A version may be given
once, and must be one of the first. -/
def takeDirectives (handles : TagHandles) (versioned : Bool) :
    List Token → Read (TagHandles × List Token)
  | .version major _ :: rest =>
    if versioned || major ≠ 1 then malformed else takeDirectives handles true rest
  | .tagHandle handle start :: rest =>
    if (handles.lookup handle).isSome then malformed
    else takeDirectives (handles ++ [(handle, start)]) versioned rest
  | .directive :: rest => takeDirectives handles versioned rest
  | rest => .ok (handles, rest)

def isDirective : Token → Bool
  | .version .. | .tagHandle .. | .directive => true
  | _ => false

def takeMarked (tokens : List Token) : Read (NodeId × Graph × List Token) := do
  match ← takeDirectives [] false tokens with
  | (handles, .documentStart :: content) =>
    if nextIs [.documentStart, .documentEnd, .streamEnd] content
        || content.head?.any isDirective then
      let (node, graph) := Graph.empty.addEmpty
      return (node, graph, content)
    else
      let (node, graph, rest) ← takeNode (handles ++ standardHandles) true false .empty content
      return (node, graph, rest.1)
  | (_, rest) => refuse rest

/-- Refuses tokens after a document, unless the text ends there. -/
def checkEnd (tokens : List Token) : Read Unit :=
  match tokens.dropWhile (· = .documentEnd) with
  | [.streamEnd] => .ok ()
  | rest => (takeDirectives [] false rest).bind fun (_, last) => refuse last

/-- The graph of the one document of a text and its root, or nothing if the text has none. -/
def Graph.ofTokens (tokens : List Token) : Read (Option (NodeId × Graph)) := do
  if nextIs [.streamEnd] tokens then return none
  else
    let (root, graph, rest) ←
      if nextIs [.documentStart] tokens || tokens.head?.any isDirective then takeMarked tokens
      else do
        let (node, graph, rest) ← takeNode standardHandles true false .empty tokens
        pure (node, graph, rest.1)
    checkEnd rest
    return some (root, graph)

end PrismaNest.Yaml
