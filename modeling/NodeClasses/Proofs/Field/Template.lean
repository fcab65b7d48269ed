import NodeClasses.Field.Basic
import NodeClasses.Proofs.Text.Delimited
import NodeClasses.Proofs.Text.Trimming

/-!
# Types of tokens and instances of templates

The types that tell what a member holds are those that name a token and those that are a template
with an argument between brackets. The template and the argument are told by the type,
`Instantiates.unique`, and `templateArgument?_eq_some_iff` says which argument is read. The blanks
at the brackets are a `Spacing`.
-/

namespace NodeClasses.Field
set_option autoImplicit false

open Text

/-- The type is `Token` or ends in `::Token`, pointer marks and blanks behind that apart. -/
def NamesToken (type : Text) : Prop :=
  ∃ named behind : Text, type = named ++ behind ∧ (∀ c ∈ behind, c = '*' ∨ isBlank c = true) ∧
    (named = "Token" ∨ ∃ scope : Text, named = scope ++ "::Token")

/-- The type is the template with `inner` between its brackets. -/
def Instantiates (template inner type : Text) : Prop :=
  ∃ blanks, AllBlank blanks ∧ type = template ++ blanks ++ "<" ++ inner ++ ">"

/-- The type is an owning pointer with `inner` between its brackets. -/
def Owns (inner type : Text) : Prop :=
  Instantiates "std::unique_ptr" inner type ∨ Instantiates "std::shared_ptr" inner type

/-! ### Types of tokens -/

/-- Pointer marks and blanks at the end of a type do not tell whether it names a token. -/
theorem isTokenType_append_run (type : Text) {run : Text}
    (isRun : ∀ c ∈ run, c = '*' ∨ isBlank c = true) :
    isTokenType (type ++ run) = isTokenType type := by
  unfold isTokenType
  rw [dropEndWhile_append_run type (by simpa using isRun)]

theorem isTokenType_iff {type : Text} : isTokenType type = true ↔ NamesToken type := by
  have isToken (t : Text) : isTokenType t = true ↔
      dropEndWhile (fun c => c == '*' || isBlank c) t = "Token" ∨
        ∃ scope : Text, dropEndWhile (fun c => c == '*' || isBlank c) t = scope ++ "::Token" := by
    simp only [isTokenType, Bool.or_eq_true, beq_iff_eq, List.isSuffixOf_iff_suffix]
    exact or_congr_right (exists_congr fun _ => eq_comm)
  constructor
  · intro token
    obtain ⟨behind, run, text⟩ := exists_dropEndWhile (fun c => c == '*' || isBlank c) type
    exact ⟨_, behind, text, by simpa using run, (isToken type).1 token⟩
  · rintro ⟨named, behind, rfl, run, token⟩
    -- The name ends in a letter, so the run that is taken away is all behind it.
    have kept : dropEndWhile (fun c => c == '*' || isBlank c) named = named := by
      obtain ⟨before, rfl⟩ : ∃ before : Text, named = before ++ ['n'] := by
        rcases token with rfl | ⟨scope, rfl⟩
        · exact ⟨"Toke", by simp⟩
        · exact ⟨scope ++ "::Toke", by simp⟩
      exact dropEndWhile_append_of_neg before (by decide)
    rw [isTokenType_append_run named run, isToken, kept]
    exact token

/-- A type that names a token ends in a letter, a pointer mark or a blank. -/
theorem NamesToken.last {type : Text} (named : NamesToken type) :
    ∃ before c, type = before ++ [c] ∧ (c = 'n' ∨ c = '*' ∨ isBlank c = true) := by
  obtain ⟨name, behind, rfl, tail, token⟩ := named
  rcases behind.eq_nil_or_concat with rfl | ⟨front, c, rfl⟩
  · rcases token with rfl | ⟨scope, rfl⟩
    · exact ⟨"Toke", 'n', by simp, .inl rfl⟩
    · exact ⟨scope ++ "::Toke", 'n', by simp, .inl rfl⟩
  · exact ⟨name ++ front, c, by simp, .inr (tail c (by simp))⟩

theorem not_namesToken {before : Text} {c : Char} (letter : c ≠ 'n') (star : c ≠ '*')
    (bare : isBlank c = false) : ¬ NamesToken (before ++ [c]) := by
  intro named
  obtain ⟨front, d, same, last⟩ := named.last
  obtain ⟨-, rfl⟩ := List.append_singleton_inj.1 same
  rcases last with rfl | rfl | blank
  · exact letter rfl
  · exact star rfl
  · simp [bare] at blank

/-! ### Instances of templates -/

/-- No angle bracket is in the text. -/
def Unbracketed (t : Text) : Prop := '<' ∉ t ∧ '>' ∉ t

instance (t : Text) : Decidable (Unbracketed t) := inferInstanceAs (Decidable (_ ∧ _))

theorem Unbracketed.append {t u : Text} (h : Unbracketed t) (h' : Unbracketed u) :
    Unbracketed (t ++ u) := by
  simp [Unbracketed, h.1, h.2, h'.1, h'.2]

theorem unbracketed_of_blank {w : Text} (blank : AllBlank w) : Unbracketed w :=
  ⟨fun member => absurd (blank '<' member) (by decide),
    fun member => absurd (blank '>' member) (by decide)⟩

/-- A name of a template: it has no bracket in it and no blank around it. -/
structure IsTemplate (t : Text) : Prop where
  unbracketed : Unbracketed t
  starts : StartsBare t
  ends : EndsBare t

theorem isTemplate_vector : IsTemplate "std::vector" := by
  constructor <;> decide +kernel

theorem isTemplate_unique : IsTemplate "std::unique_ptr" := by
  constructor <;> decide +kernel

theorem isTemplate_shared : IsTemplate "std::shared_ptr" := by
  constructor <;> decide +kernel

section Instances

variable {template inner type : Text}

theorem Instantiates.ends (written : Instantiates template inner type) :
    ∃ before, type = before ++ ['>'] := by
  obtain ⟨blanks, -, rfl⟩ := written
  exact ⟨template ++ blanks ++ "<" ++ inner, by simp⟩

theorem Instantiates.not_namesToken (written : Instantiates template inner type) :
    ¬ NamesToken type := by
  obtain ⟨before, rfl⟩ := written.ends
  exact Field.not_namesToken (by decide) (by decide) (by decide)

theorem Instantiates.ne_any (written : Instantiates template inner type) : type ≠ "std::any" := by
  obtain ⟨before, rfl⟩ := written.ends
  intro any
  have last := congrArg List.getLast? any
  simp at last

/-- The template and what stands between its brackets are told by the type. -/
theorem Instantiates.unique {template' inner' : Text} (written : Instantiates template inner type)
    (written' : Instantiates template' inner' type) (named : IsTemplate template)
    (named' : IsTemplate template') : template = template' ∧ inner = inner' := by
  have name {t w : Text} (h : IsTemplate t) (blank : AllBlank w) :
      '<' ∉ t ++ w ∧ trimEnd (t ++ w) = t :=
    ⟨(h.unbracketed.append (unbracketed_of_blank blank)).1,
      by rw [trimEnd_append_blanks t w blank, trimEnd_of_endsBare h.ends]⟩
  obtain ⟨blanks, blank, rfl⟩ := written
  obtain ⟨blanks', blank', same⟩ := written'
  -- No template has a bracket in its name, so the first one of the type ends both names.
  have cut : (template ++ blanks) ++ ['<'] ++ (inner ++ ['>']) =
      (template' ++ blanks') ++ ['<'] ++ (inner' ++ ['>']) := by
    simpa using same
  obtain ⟨unopened, text⟩ := name named blank
  obtain ⟨unopened', text'⟩ := name named' blank'
  obtain ⟨names, inners⟩ := delimited_ended '<' unopened unopened' _ _ cut
  exact ⟨by rw [← text, names, text'], List.append_cancel_right inners⟩

/-- No blanks are around an instance of a template. -/
theorem Instantiates.trim_eq (written : Instantiates template inner type)
    (named : IsTemplate template) : trim type = type := by
  obtain ⟨before, text⟩ := written.ends
  have last : EndsBare type := text ▸ endsBare_append (by decide +kernel) before
  obtain ⟨blanks, -, rfl⟩ := written
  have first := ((named.starts.append blanks).append ("<" ++ inner ++ ">" : Text))
  exact trim_of_bare (by simpa using first) last

/-- The argument is what stands between the brackets. -/
theorem templateArgument?_eq_some_iff {argument : Text} :
    templateArgument? template type = some argument ↔
      ∃ inner, Instantiates template inner type ∧ argument = trim inner := by
  simp only [templateArgument?, Option.bind_eq_bind, Option.bind_eq_some_iff, Option.pure_def,
    Option.some.injEq, List.isPrefixOf?_eq_some_iff_append_eq,
    List.isSuffixOf?_eq_some_iff_append_eq]
  constructor
  · rintro ⟨rest, rfl, opened, start, inner, rfl, rfl⟩
    obtain ⟨blanks, blank, text⟩ := exists_trimStart rest
    exact ⟨inner, ⟨blanks, blank, by rw [text, ← start]; simp⟩, rfl⟩
  · rintro ⟨inner, ⟨blanks, blank, rfl⟩, rfl⟩
    have bracket : StartsBare ("<" ++ (inner ++ ">")) := by
      simpa [startsBare_cons] using (by decide : isBlank '<' = false)
    refine ⟨blanks ++ ("<" ++ (inner ++ ">")), by simp, inner ++ ">", ?_, inner, rfl, rfl⟩
    rw [trimStart_blanks_append _ _ blank, trimStart_of_startsBare bracket]

theorem templateArgument?_of_instantiates (written : Instantiates template inner type) :
    templateArgument? template type = some (trim inner) :=
  templateArgument?_eq_some_iff.2 ⟨inner, written, rfl⟩

/-- No other template is found. -/
theorem templateArgument?_eq_none {other : Text} (written : Instantiates template inner type)
    (named : IsTemplate template) (named' : IsTemplate other) (ne : other ≠ template) :
    templateArgument? other type = none := by
  rw [Option.eq_none_iff_forall_ne_some]
  intro argument found
  obtain ⟨inner', written', -⟩ := templateArgument?_eq_some_iff.1 found
  exact ne (written'.unique written named' named).1

theorem ownedNode?_eq_some_iff {node : Text} :
    ownedNode? type = some node ↔ ∃ inner, Owns inner type ∧ node = trim inner := by
  simp only [ownedNode?, Option.orElse_eq_orElse, Option.orElse_eq_or, Option.or_eq_some_iff,
    templateArgument?_eq_some_iff]
  constructor
  · rintro (⟨inner, written, rfl⟩ | ⟨-, inner, written, rfl⟩)
    · exact ⟨inner, .inl written, rfl⟩
    · exact ⟨inner, .inr written, rfl⟩
  · rintro ⟨inner, written | written, rfl⟩
    · exact .inl ⟨inner, written, rfl⟩
    · refine .inr ⟨?_, inner, written, rfl⟩
      exact templateArgument?_eq_none written isTemplate_shared isTemplate_unique
        (by decide +kernel)

theorem Owns.ownedNode? (owns : Owns inner type) : ownedNode? type = some (trim inner) :=
  ownedNode?_eq_some_iff.2 ⟨inner, owns, rfl⟩

/-- An owning pointer is no vector. -/
theorem Owns.not_vector (owns : Owns inner type) : templateArgument? "std::vector" type = none := by
  rcases owns with written | written
  · exact templateArgument?_eq_none written isTemplate_unique isTemplate_vector (by decide +kernel)
  · exact templateArgument?_eq_none written isTemplate_shared isTemplate_vector (by decide +kernel)

/-- A vector is no owning pointer. -/
theorem ownedNode?_eq_none (vector : Instantiates "std::vector" inner type) :
    ownedNode? type = none := by
  unfold ownedNode?
  rw [templateArgument?_eq_none vector isTemplate_vector isTemplate_unique (by decide +kernel),
    templateArgument?_eq_none vector isTemplate_vector isTemplate_shared (by decide +kernel)]
  rfl

theorem Owns.not_namesToken (owns : Owns inner type) : ¬ NamesToken type :=
  owns.elim Instantiates.not_namesToken Instantiates.not_namesToken

/-- Two arguments that are trimmed alike are told alike in the same template. -/
theorem templateArgument?_congr {other inner' type' : Text}
    (written : Instantiates template inner type) (written' : Instantiates template inner' type')
    (same : trim inner = trim inner') (named : IsTemplate template) (named' : IsTemplate other) :
    templateArgument? other type = templateArgument? other type' := by
  by_cases this : other = template
  · subst this
    rw [templateArgument?_of_instantiates written, templateArgument?_of_instantiates written', same]
  · rw [templateArgument?_eq_none written named named' this,
      templateArgument?_eq_none written' named named' this]

end Instances

/-! ### Blanks at brackets -/

/-- What stands at the brackets of a template. -/
structure Spacing where
  /-- What stands before the opening bracket. -/
  before : Text
  /-- What stands behind the opening bracket. -/
  inside : Text
  /-- What stands before the closing bracket. -/
  behind : Text
  deriving DecidableEq, Repr

namespace Spacing

/-- The template with its argument between brackets. -/
def wrap (s : Spacing) (template argument : Text) : Text :=
  template ++ s.before ++ "<" ++ (s.inside ++ argument ++ s.behind) ++ ">"

/-- Only blanks stand at the brackets. -/
structure Blank (s : Spacing) : Prop where
  before : AllBlank s.before
  inside : AllBlank s.inside
  behind : AllBlank s.behind

instance (s : Spacing) : Decidable s.Blank :=
  decidable_of_iff (AllBlank s.before ∧ AllBlank s.inside ∧ AllBlank s.behind)
    ⟨fun ⟨before, inside, behind⟩ => ⟨before, inside, behind⟩,
      fun h => ⟨h.before, h.inside, h.behind⟩⟩

variable {s : Spacing} {template argument : Text}

theorem Blank.instantiates (blank : s.Blank) (template argument : Text) :
    Instantiates template (s.inside ++ argument ++ s.behind) (s.wrap template argument) :=
  ⟨s.before, blank.before, rfl⟩

theorem Blank.trim_argument (blank : s.Blank) (argument : Text) :
    trim (s.inside ++ argument ++ s.behind) = trim argument :=
  trim_surround _ _ _ blank.inside blank.behind

end Spacing

end NodeClasses.Field
