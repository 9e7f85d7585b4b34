import PrismaNest.Proofs.Schema.Fields

/-! Comments after what a line declares.

Only whole lines are read as comments. A comment after a field or a value is told from it by the
number of tokens that are read: it is ignored behind a name and a type, and behind a value. Behind
a name alone, its first token is read as the type.
-/

set_option autoImplicit false

namespace PrismaNest

open Text

/-- A line with a comment after it. -/
def withComment (line comment : List Char) : List Char :=
  line ++ ' ' :: ("//".toList ++ comment)

/-- A line that holds a name and nothing else. -/
def IsLoneName (line : List Char) : Prop :=
  ∃ name, tokens line = [name] ∧ Naming.isPlainIdentifier name = true

/-- A token that starts a comment. -/
def OpensComment (token : List Char) : Prop :=
  "//".toList <+: token

section
variable {enumNames : List String} {line other token : List Char}

theorem OpensComment.not_isPlainIdentifier (opens : OpensComment token) :
    Naming.isPlainIdentifier token = false := by
  obtain ⟨rest, rfl⟩ := opens
  rfl

-- A type is left when its markers are taken off.
theorem OpensComment.base_ne_nil (opens : OpensComment token) : (TypeToken.ofRaw token).base ≠ [] := by
  obtain ⟨rest, rfl⟩ := opens
  exact List.cons_ne_nil _ _

theorem tokens_comment (comment : List Char) : ∃ first others,
    tokens ("//".toList ++ comment) = first :: others ∧ OpensComment first := by
  obtain ⟨head, pieces, split⟩ := List.exists_cons_of_ne_nil (List.splitOnP_ne_nil isBlank comment)
  have slash : isBlank '/' = false := by decide
  refine ⟨'/' :: '/' :: head, pieces.filter (!·.isEmpty), ?_, head, rfl⟩
  change tokens ('/' :: '/' :: comment) = _
  rw [tokens, List.splitOnP_cons_eq_if_modifyHead, List.splitOnP_cons_eq_if_modifyHead, slash, split]
  rfl

theorem tokens_withComment (line comment : List Char) : ∃ first others,
    tokens (withComment line comment) = tokens line ++ first :: others ∧ OpensComment first := by
  obtain ⟨first, others, opened, opens⟩ := tokens_comment comment
  have blank : isBlank ' ' = true := by decide
  exact ⟨first, others, by rw [withComment, tokens_append_cons blank, opened], opens⟩

theorem Field.toOption_of_short (short : (tokens line).length < 2) :
    (Field.ofLine enumNames line).toOption = none := by
  rw [Option.eq_none_iff_forall_ne_some]
  intro field read
  obtain ⟨name, raw, others, split, -⟩ := ofLine_eq_ok_iff.mp (toOption_eq_some_iff.mp read)
  rw [split, List.length_cons, List.length_cons] at short
  omega

theorem Field.toOption_of_refused {others : List (List Char)} (split : tokens line = token :: others)
    (refused : Naming.isPlainIdentifier token = false) :
    (Field.ofLine enumNames line).toOption = none := by
  rw [Option.eq_none_iff_forall_ne_some]
  intro field read
  obtain ⟨name, raw, others, again, identifier, -⟩ := ofLine_eq_ok_iff.mp (toOption_eq_some_iff.mp read)
  rw [split] at again
  cases again
  rw [refused] at identifier
  cases identifier

-- Only the first two tokens matter to a field.
theorem Field.toOption_congr {name raw : List Char} {rest others : List (List Char)}
    (split : tokens line = name :: raw :: rest) (otherSplit : tokens other = name :: raw :: others) :
    (Field.ofLine enumNames line).toOption = (Field.ofLine enumNames other).toOption := by
  simp only [Field.ofLine, split, otherSplit]
  cases Naming.isIdentifier name <;> cases (TypeToken.ofRaw raw).base.isEmpty <;> rfl

-- A field whose type is the comment.
theorem Field.ofLine_withComment_of_isLoneName (lone : IsLoneName line) (comment : List Char) :
    ∃ field, Field.ofLine enumNames (withComment line comment) = .ok field ∧
      OpensComment field.rawType.toList := by
  obtain ⟨name, single, identifier⟩ := lone
  obtain ⟨first, others, split, opens⟩ := tokens_withComment line comment
  rw [single] at split
  refine ⟨_, ofLine_eq_ok_iff.mpr ⟨name, first, others, split, identifier, opens.base_ne_nil, rfl⟩, ?_⟩
  change OpensComment (String.ofList first).toList
  rwa [String.toList_ofList]

theorem Field.toOption_of_isLoneName (lone : IsLoneName line) :
    (Field.ofLine enumNames line).toOption = none := by
  obtain ⟨name, single, -⟩ := lone
  exact toOption_of_short (by simp [single])

theorem Field.toOption_withComment (notLone : ¬ IsLoneName line) (comment : List Char) :
    (Field.ofLine enumNames (withComment line comment)).toOption =
      (Field.ofLine enumNames line).toOption := by
  obtain ⟨first, others, split, opens⟩ := tokens_withComment line comment
  match listed : tokens line with
  | [] =>
    rw [listed] at split
    rw [toOption_of_refused split opens.not_isPlainIdentifier, toOption_of_short (by simp [listed])]
  | [name] =>
    have refused : Naming.isPlainIdentifier name = false :=
      Bool.eq_false_iff.mpr fun identifier => notLone ⟨name, listed, identifier⟩
    rw [listed] at split
    rw [toOption_of_refused split refused, toOption_of_refused listed refused]
  | name :: raw :: rest =>
    rw [listed] at split
    exact toOption_congr split listed

/-! ### Values -/

theorem enumValue_toOption_congr (same : (tokens line).head? = (tokens other).head?) :
    (enumValue line).toOption = (enumValue other).toOption := by
  have head : (tokens line).headD [] = (tokens other).headD [] := by
    rw [List.headD_eq_head?_getD, List.headD_eq_head?_getD, same]
  simp only [enumValue, head]
  cases Naming.isIdentifier ((tokens other).headD []) <;> rfl

theorem enumValue_toOption_of_opens {others : List (List Char)} (split : tokens line = token :: others)
    (opens : OpensComment token) : (enumValue line).toOption = none := by
  rw [Option.eq_none_iff_forall_ne_some]
  intro value read
  obtain ⟨first, rest, again, identifier, -⟩ := enumValue_eq_ok_iff.mp (toOption_eq_some_iff.mp read)
  rw [split] at again
  cases again
  rw [opens.not_isPlainIdentifier] at identifier
  cases identifier

theorem enumValue_withComment (line comment : List Char) :
    (enumValue (withComment line comment)).toOption = (enumValue line).toOption := by
  obtain ⟨first, others, split, opens⟩ := tokens_withComment line comment
  cases listed : tokens line with
  | nil =>
    rw [listed] at split
    rw [enumValue_toOption_of_opens split opens, enumValue, listed]
    rfl
  | cons name rest =>
    apply enumValue_toOption_congr
    rw [split, listed]
    rfl

-- A line that is blank or a comment has no value anyway.
theorem plainLine?_bind_enumValue (line : List Char) :
    ((plainLine? line).bind fun trimmed => (enumValue trimmed).toOption) = (enumValue line).toOption := by
  have trimmed : (enumValue (trim line)).toOption = (enumValue line).toOption :=
    enumValue_toOption_congr (by rw [tokens_trim])
  rw [plainLine?]
  split
  · exact trimmed
  · rename_i skipped
    rw [← trimmed]
    cases blank : trim line with
    | nil => rfl
    | cons c rest =>
      have marked : isCommentLine (trim line) = true := by simpa [blank] using skipped
      obtain ⟨comment, spelled⟩ := isCommentLine_eq_true_iff.mp marked
      obtain ⟨first, others, split, opens⟩ := tokens_comment comment
      rw [spelled, blank] at split
      exact (enumValue_toOption_of_opens split opens).symm

theorem Enumeration.ofBody_values_eq (name : String) (body : List Char) :
    (Enumeration.ofBody name body).values =
      (lines body).filterMap fun line => (enumValue line).toOption := by
  rw [ofBody_values]
  exact List.filterMap_congr fun line _ => plainLine?_bind_enumValue line

theorem Enumeration.ofBody_withComment {name : String} {front back : List (List Char)}
    {comment body commented : List Char} (split : lines body = front ++ line :: back)
    (commentedSplit : lines commented = front ++ withComment line comment :: back) :
    ofBody name commented = ofBody name body := by
  have values : (ofBody name commented).values = (ofBody name body).values := by
    rw [ofBody_values_eq, ofBody_values_eq, split, commentedSplit]
    simp only [List.filterMap_append, List.filterMap_cons, enumValue_withComment]
  exact congrArg (Enumeration.mk name) values

end

/-- A comment after a line changes the field that is read if and only if the line is a name alone, which
then gets the comment as its type. It never changes what a line gives to an enumeration. -/
theorem reads_withComment (enumNames : List String) (line comment : List Char) :
    ((Field.ofLine enumNames (withComment line comment)).toOption =
      (Field.ofLine enumNames line).toOption ↔ ¬ IsLoneName line) ∧
    (IsLoneName line → (Field.ofLine enumNames line).toOption = none ∧
      ∃ field, Field.ofLine enumNames (withComment line comment) = .ok field ∧
        OpensComment field.rawType.toList) ∧
    ∀ name front back body commented, lines body = front ++ line :: back →
      lines commented = front ++ withComment line comment :: back →
      Enumeration.ofBody name commented = Enumeration.ofBody name body := by
  have lone : IsLoneName line → (Field.ofLine enumNames line).toOption = none ∧
      ∃ field, Field.ofLine enumNames (withComment line comment) = .ok field ∧
        OpensComment field.rawType.toList := fun lone =>
    ⟨Field.toOption_of_isLoneName lone, Field.ofLine_withComment_of_isLoneName lone comment⟩
  refine ⟨⟨fun same alone => ?_, fun notLone => Field.toOption_withComment notLone comment⟩, lone,
    fun _ _ _ _ _ split commentedSplit => Enumeration.ofBody_withComment split commentedSplit⟩
  obtain ⟨dropped, field, read, -⟩ := lone alone
  rw [dropped, read] at same
  cases same

/-- A comment behind a name and a type, and one behind a value. -/
theorem reads_withComment_declared :
    let field := "name String".toList
    let commented := withComment field " shown".toList
    (Field.ofLine [] commented).toOption = (Field.ofLine [] field).toOption ∧
      Enumeration.ofBody "Role" " ADMIN // all\n USER".toList =
        Enumeration.ofBody "Role" " ADMIN\n USER".toList := by
  intro field commented
  have notLone : ¬ IsLoneName field := by
    rintro ⟨name, single, -⟩
    have two : tokens field = ["name".toList, "String".toList] := by decide +kernel
    rw [two] at single
    cases single
  have split : lines " ADMIN\n USER".toList = [] ++ " ADMIN".toList :: [" USER".toList] := by
    decide +kernel
  have commentedSplit : lines " ADMIN // all\n USER".toList =
      [] ++ withComment " ADMIN".toList " all".toList :: [" USER".toList] := by decide +kernel
  exact ⟨(reads_withComment [] field _).1.mpr notLone,
    (reads_withComment [] _ _).2.2 "Role" [] _ _ _ split commentedSplit⟩

/-- Behind a name alone, the marker of the comment is read as a type. -/
theorem withComment_reads_type :
    let line := "id".toList
    (Field.ofLine [] line).toOption = none ∧
      ((Field.ofLine [] (withComment line " note".toList)).toOption.map Field.rawType) = some "//" ∧
      (Field.ofLine [] (withComment line " note".toList)).toOption ≠ (Field.ofLine [] line).toOption := by
  decide +kernel

end PrismaNest
