import PrismaNest.Artifact.Controller
import PrismaNest.Proofs.Naming.Casing
import PrismaNest.Proofs.Naming.Plural
import PrismaNest.Text.Quoted

/-! Routes as parts of paths and of quoted texts.

A route has runs of small letters and digits with single hyphens between them, whatever stands in the
name of the model. What a plural ends with is a letter that no word loses, so there is always such a run,
and nothing in it needs to be escaped between quotes.
-/

set_option autoImplicit false

namespace PrismaNest.Naming

open Text

/-- Runs of small letters and digits, separated by single hyphens. -/
def IsSlug (text : String) : Prop :=
  ∃ runs : List String, runs ≠ [] ∧
    (∀ run ∈ runs, run ≠ "" ∧ ∀ c ∈ run.toList, c.isLower = true ∨ c.isDigit = true) ∧
    text = String.intercalate "-" runs

theorem IsSpelled.plain {word : String} (spelled : IsSpelled word) :
    ∀ c ∈ word.toList, c.isLower = true ∨ c.isDigit = true := by
  cases spelled with
  | small small => exact fun c member => .inl (small.small c member)
  | number number => exact fun c member => .inr (number.digits c member)

theorem isSlug_kebabCase {name : String} (worded : words name ≠ []) : IsSlug (kebabCase name) :=
  ⟨words name, worded,
    fun _ member => ⟨ne_empty_of_mem_words member, (isSpelled_of_mem_words member).plain⟩, rfl⟩

/-! ### Edges -/

theorem exists_intercalate_cons (separator first : String) (rest : List String) :
    ∃ more, String.intercalate separator (first :: rest) = first ++ more := by
  by_cases none : rest = []
  · exact ⟨"", by rw [none, String.intercalate_singleton, String.append_empty]⟩
  · exact ⟨_, by rw [String.intercalate_cons_of_ne_nil none, String.append_assoc]⟩

theorem exists_intercalate_concat (separator last : String) (front : List String) :
    ∃ more, String.intercalate separator (front ++ [last]) = more ++ last := by
  by_cases none : front = []
  · exact ⟨"", by rw [none, List.nil_append, String.intercalate_singleton, String.empty_append]⟩
  · refine ⟨String.intercalate separator front ++ separator, ?_⟩
    rw [String.intercalate_append_of_ne_nil none (List.cons_ne_nil last []), String.intercalate_singleton]

section
variable {text : String} (slug : IsSlug text)
include slug

theorem IsSlug.plain : ∀ c ∈ text.toList, c.isLower = true ∨ c.isDigit = true ∨ c = '-' := by
  obtain ⟨runs, -, proper, rfl⟩ := slug
  have hyphen : "-".toList = ['-'] := rfl
  apply forall_mem_intercalate
  · rw [hyphen, List.forall_mem_singleton]
    exact .inr (.inr rfl)
  · exact fun run member c inside => ((proper run member).2 c inside).imp_right .inl

theorem IsSlug.exists_head :
    ∃ c rest, text.toList = c :: rest ∧ (c.isLower = true ∨ c.isDigit = true) := by
  obtain ⟨runs, some, proper, rfl⟩ := slug
  obtain ⟨first, rest, rfl⟩ := List.exists_cons_of_ne_nil some
  obtain ⟨written, plain⟩ := proper first List.mem_cons_self
  obtain ⟨more, starts⟩ := exists_intercalate_cons "-" first rest
  obtain ⟨c, others, spelled⟩ := List.exists_cons_of_ne_nil (mt String.toList_eq_nil_iff.mp written)
  refine ⟨c, others ++ more.toList, ?_, plain c (by simp [spelled])⟩
  rw [starts, String.toList_append, spelled, List.cons_append]

theorem IsSlug.exists_last :
    ∃ front c, text.toList = front ++ [c] ∧ (c.isLower = true ∨ c.isDigit = true) := by
  obtain ⟨runs, some, proper, rfl⟩ := slug
  obtain ⟨front, last, rfl⟩ := (List.eq_nil_or_concat' runs).resolve_left some
  obtain ⟨written, plain⟩ := proper last (by simp)
  obtain ⟨more, ends⟩ := exists_intercalate_concat "-" last front
  obtain ⟨others, c, spelled⟩ :=
    (List.eq_nil_or_concat' last.toList).resolve_left (mt String.toList_eq_nil_iff.mp written)
  refine ⟨more.toList ++ others, c, ?_, plain c (by simp [spelled])⟩
  rw [ends, String.toList_append, spelled, List.append_assoc]

theorem IsSlug.ne_empty : text ≠ "" := by
  obtain ⟨c, rest, spelled, -⟩ := slug.exists_head
  rintro rfl
  cases spelled

theorem IsSlug.head?_ne_hyphen : text.toList.head? ≠ some '-' := by
  obtain ⟨c, rest, spelled, plain⟩ := slug.exists_head
  rw [spelled, List.head?_cons]
  rintro ⟨⟩
  exact absurd plain (by decide)

theorem IsSlug.getLast?_ne_hyphen : text.toList.getLast? ≠ some '-' := by
  obtain ⟨front, c, spelled, plain⟩ := slug.exists_last
  rw [spelled, List.getLast?_concat]
  rintro ⟨⟩
  exact absurd plain (by decide)

-- Neither a quote nor a backslash, and nothing that has no printed form.
theorem IsSlug.escapeChar_eq : ∀ c ∈ text.toList, c ≠ '\'' ∧ escapeChar '\'' c = [c] := by
  have ascii {c : Char} (alphanumeric : c.isAlphanum = true) : c ≠ '\'' ∧ escapeChar '\'' c = [c] :=
    of_isAlphanum (P := fun c => c ≠ '\'' ∧ escapeChar '\'' c = [c]) (by decide +kernel) alphanumeric
  intro c member
  rcases slug.plain c member with small | digit | rfl
  · exact ascii (by simp [Char.isAlphanum, isAlpha_eq, small])
  · exact ascii (by simp [Char.isAlphanum, digit])
  · decide +kernel

theorem IsSlug.quoted_eq : quoted text = "'" ++ text ++ "'" := by
  have plain := slug.escapeChar_eq
  have absent : text.toList.contains '\'' = false := by
    rw [← Bool.not_eq_true, List.contains_iff_mem]
    exact fun member => (plain _ member).1 rfl
  have mark : quoteMark text.toList = '\'' := by
    rw [quoteMark, absent]
    rfl
  have same : text.toList.flatMap (escapeChar '\'') = text.toList :=
    (List.flatMap_congr fun c member => (plain c member).2).trans (List.flatMap_singleton' _)
  rw [quoted, mark, same, ← String.toList_inj, String.toList_ofList, String.toList_append,
    String.toList_append]
  rfl

theorem IsSlug.append_quoted (opening opened : String) (marked : opening ++ "'" = opened) :
    opening ++ quoted text ++ ")" = opened ++ text ++ "')" := by
  have closing : "'" ++ ")" = "')" := by decide
  rw [slug.quoted_eq, ← marked, ← closing]
  simp only [String.append_assoc]

end

/-! ### Plurals -/

theorem words_ne_nil {name : String} {c : Char} (member : c ∈ name.toList)
    (alphanumeric : c.isAlphanum = true) : words name ≠ [] := by
  rw [words, Ne, List.map_eq_nil_iff, wordsAsWritten_eq_nil_iff]
  intro other
  rw [other c member] at alphanumeric
  cases alphanumeric

-- A plural ends with letters that make a word, or is a name that does.
theorem words_plural_ne_nil {name : String} (named : name ≠ "") : words (plural name) ≠ [] := by
  rcases plural_cases named with ⟨form, found, written⟩ | ⟨unchanged, stem, spelled⟩ |
    ⟨letters, listed, added⟩ | ⟨stem, -, replaced⟩
  · have single := length_words_of_irregular found _ written
    exact List.ne_nil_of_length_eq_add_one single
  · rw [unchanged]
    rcases spelled with rfl | rfl
    · exact words_ne_nil (c := 's') (by simp) rfl
    · exact words_ne_nil (c := 'S') (by simp) rfl
  · rw [added]
    refine words_ne_nil (c := 's') ?_ rfl
    have ends : ∀ letters ∈ ["s", "es"], 's' ∈ letters.toList := by decide
    simp [ends letters listed]
  · rw [replaced]
    exact words_ne_nil (c := 's') (by simp) rfl

end PrismaNest.Naming

namespace PrismaNest

open Text Naming

theorem Model.mem_controllerLines {settings : Settings} {model : Model} {line : CodeLine}
    (member : line ∈ model.controllerDecorators settings) : line ∈ model.controllerLines settings := by
  simp only [controllerLines, List.mem_append]
  exact .inl (.inl (.inl (.inr member)))

theorem Model.mem_controllerDecorators_route (settings : Settings) (model : Model) :
    ⟨0, "@Controller('" ++ model.route ++ "')"⟩ ∈ model.controllerDecorators settings :=
  List.mem_append_right _ (List.mem_singleton_self _)

theorem Model.mem_controllerDecorators_tag {settings : Settings} (documented : settings.enableSwagger = true)
    (model : Model) : ⟨0, "@ApiTags('" ++ model.route ++ "')"⟩ ∈ model.controllerDecorators settings := by
  simp [controllerDecorators, documented]

/-- A route is a well-formed part of a path, and it is quoted as it is where the controller names it. -/
theorem Model.route_isSlug {model : Model} (named : model.name ≠ "") :
    IsSlug model.route ∧ model.route ≠ "" ∧
      model.route.toList.head? ≠ some '-' ∧ model.route.toList.getLast? ≠ some '-' ∧
      quoted model.route = "'" ++ model.route ++ "'" ∧
      ∀ settings : Settings,
        ⟨0, "@Controller(" ++ quoted model.route ++ ")"⟩ ∈ model.controllerLines settings ∧
        (settings.enableSwagger = true →
          ⟨0, "@ApiTags(" ++ quoted model.route ++ ")"⟩ ∈ model.controllerLines settings) := by
  have slug : IsSlug model.route := isSlug_kebabCase (words_plural_ne_nil named)
  refine ⟨slug, slug.ne_empty, slug.head?_ne_hyphen, slug.getLast?_ne_hyphen, slug.quoted_eq,
    fun settings => ?_⟩
  rw [slug.append_quoted "@Controller(" "@Controller('" (by decide),
    slug.append_quoted "@ApiTags(" "@ApiTags('" (by decide)]
  exact ⟨mem_controllerLines (mem_controllerDecorators_route settings model),
    fun documented => mem_controllerLines (mem_controllerDecorators_tag documented model)⟩

/-- Of a name without any ASCII letter or digit, the ending of the plural is the route. -/
theorem Model.route_isSlug_foreign :
    let model : Model := ⟨"'数'-", []⟩
    model.name ≠ "" ∧ model.route = "s" ∧ IsSlug model.route := by
  intro model
  have named : model.name ≠ "" := by decide
  exact ⟨named, by decide +kernel, (route_isSlug named).1⟩

end PrismaNest
