import NodeClasses.Proofs.Field.Template

/-!
# What shows the kind of a member

Each kind of member is shown by a condition on its type and its marks, and the plain ones are those
that show nothing. No member shows two kinds, so the order in which the conditions are tried does
not matter: `kind_eq_iff_shown`. Blanks at the brackets of a template do not count, and nothing that
points is moved.
-/

namespace NodeClasses.Field
set_option autoImplicit false

open Text

/-- The kind is shown by the type and the marks of a member. -/
inductive Kind.Shown (type marks : Text) : Kind → Prop where
  | token (named : NamesToken type) : Shown type marks .token
  | tokens {inner : Text} (unmarked : marks = []) (vector : Instantiates "std::vector" inner type)
      (element : NamesToken (trim inner)) : Shown type marks .tokens
  | children {inner node : Text} (unmarked : marks = [])
      (vector : Instantiates "std::vector" inner type) (element : Owns node (trim inner)) :
      Shown type marks (.children (trim node))
  | child {node : Text} (unmarked : marks = []) (owns : Owns node type) :
      Shown type marks (.child (trim node))
  | anyValue (unmarked : marks = []) (any : type = "std::any") : Shown type marks .anyValue

/-! ### The kind that is shown -/

section Kinds

variable {type marks : Text}

/-- Marks on the name leave only tokens and plain members. -/
theorem Kind.ofType_marked (plain : ¬ NamesToken type) (marked : marks ≠ []) :
    Kind.ofType type marks = .plain := by
  rw [Kind.ofType, if_neg (isTokenType_iff.not.2 plain), if_pos marked]

/-- Without marks, a vector is told by its element and an owning pointer by its node. -/
theorem Kind.ofType_unmarked (plain : ¬ NamesToken type) :
    Kind.ofType type [] =
      ((templateArgument? "std::vector" type).map Kind.ofElement).getD
        (((ownedNode? type).map Kind.child).getD
          (if type = "std::any" then .anyValue else .plain)) := by
  rw [Kind.ofType, if_neg (isTokenType_iff.not.2 plain), if_neg (by simp)]
  cases templateArgument? "std::vector" type with
  | some element => rfl
  | none =>
    cases ownedNode? type with
    | some node => rfl
    | none => rfl

/-- A member is of the kind that it shows. -/
theorem Kind.Shown.ofType_eq {k : Kind} (shown : k.Shown type marks) :
    Kind.ofType type marks = k := by
  cases shown with
  | token named => rw [Kind.ofType, if_pos (isTokenType_iff.2 named)]
  | tokens unmarked vector element =>
    rw [unmarked, Kind.ofType_unmarked vector.not_namesToken,
      templateArgument?_of_instantiates vector]
    exact if_pos (isTokenType_iff.2 element)
  | children unmarked vector element =>
    rw [unmarked, Kind.ofType_unmarked vector.not_namesToken,
      templateArgument?_of_instantiates vector, Option.map_some, Option.getD_some, Kind.ofElement,
      if_neg (isTokenType_iff.not.2 element.not_namesToken), element.ownedNode?]
  | child unmarked owns =>
    rw [unmarked, Kind.ofType_unmarked owns.not_namesToken, owns.not_vector, owns.ownedNode?]
    rfl
  | anyValue unmarked any =>
    rw [unmarked, any]
    decide +kernel

/-- What the elements of a vector show. -/
theorem Kind.ofElement_cases {inner : Text} (vector : Instantiates "std::vector" inner type) :
    Kind.ofElement (trim inner) = .plain ∨ (Kind.ofElement (trim inner)).Shown type [] := by
  by_cases token : NamesToken (trim inner)
  case pos =>
    rw [Kind.ofElement, if_pos (isTokenType_iff.2 token)]
    exact .inr (.tokens rfl vector token)
  case neg =>
    rw [Kind.ofElement, if_neg (isTokenType_iff.not.2 token)]
    cases owned : ownedNode? (trim inner) with
    | some node =>
      obtain ⟨pointee, owns, rfl⟩ := ownedNode?_eq_some_iff.1 owned
      exact .inr (.children rfl vector owns)
    | none => exact .inl rfl

/-- A member is plain or shows its kind. -/
theorem Kind.ofType_cases (type marks : Text) :
    Kind.ofType type marks = .plain ∨ (Kind.ofType type marks).Shown type marks := by
  by_cases token : NamesToken type
  · rw [Kind.ofType, if_pos (isTokenType_iff.2 token)]
    exact .inr (.token token)
  by_cases unmarked : marks = []
  case neg => exact .inl (Kind.ofType_marked token unmarked)
  case pos =>
    rw [unmarked, Kind.ofType_unmarked token]
    cases vector : templateArgument? "std::vector" type with
    | some element =>
      obtain ⟨inner, written, rfl⟩ := templateArgument?_eq_some_iff.1 vector
      exact Kind.ofElement_cases written
    | none =>
      cases owned : ownedNode? type with
      | some node =>
        obtain ⟨pointee, owns, rfl⟩ := ownedNode?_eq_some_iff.1 owned
        exact .inr (.child rfl owns)
      | none =>
        by_cases any : type = "std::any"
        · rw [if_pos any]
          exact .inr (.anyValue rfl any)
        · rw [if_neg any]
          exact .inl rfl

end Kinds

/-! ### Blanks at brackets -/

/-- The types differ at most in the blanks at the brackets of a template, or of the element of a
vector. -/
inductive Respaced : Text → Text → Prop where
  | template {s s' : Spacing} {template argument : Text} (named : IsTemplate template)
      (blank : s.Blank) (blank' : s'.Blank) :
      Respaced (s.wrap template argument) (s'.wrap template argument)
  | element {s s' : Spacing} {element element' : Text} (blank : s.Blank) (blank' : s'.Blank)
      (respaced : Respaced element element') :
      Respaced (s.wrap "std::vector" element) (s'.wrap "std::vector" element')

namespace Respaced

variable {type type' : Text}

/-- A type with brackets that may be respaced is an instance of a template. -/
theorem instantiates (respaced : Respaced type type') :
    ∃ template inner inner', Instantiates template inner type ∧
      Instantiates template inner' type' := by
  cases respaced with
  | template named blank blank' => exact ⟨_, _, _, blank.instantiates _ _, blank'.instantiates _ _⟩
  | element blank blank' => exact ⟨_, _, _, blank.instantiates _ _, blank'.instantiates _ _⟩

theorem trim_eq (respaced : Respaced type type') : trim type = type ∧ trim type' = type' := by
  cases respaced with
  | template named blank blank' =>
    exact ⟨(blank.instantiates _ _).trim_eq named, (blank'.instantiates _ _).trim_eq named⟩
  | element blank blank' =>
    exact ⟨(blank.instantiates _ _).trim_eq isTemplate_vector,
      (blank'.instantiates _ _).trim_eq isTemplate_vector⟩

/-- The node that is owned is told alike. -/
theorem ownedNode?_eq (respaced : Respaced type type') : ownedNode? type = ownedNode? type' := by
  cases respaced with
  | @template s s' template argument named blank blank' =>
    have same := (blank.trim_argument argument).trans (blank'.trim_argument argument).symm
    have told {other : Text} (named' : IsTemplate other) :=
      templateArgument?_congr (blank.instantiates template argument)
        (blank'.instantiates template argument) same named named'
    unfold ownedNode?
    rw [told isTemplate_unique, told isTemplate_shared]
  | @element s s' element element' blank blank' =>
    rw [ownedNode?_eq_none (blank.instantiates _ element),
      ownedNode?_eq_none (blank'.instantiates _ element')]

/-- The kind of a vector of such elements is told alike. -/
theorem ofElement_eq (respaced : Respaced type type') :
    Kind.ofElement (trim type) = Kind.ofElement (trim type') := by
  obtain ⟨_, _, _, written, written'⟩ := respaced.instantiates
  obtain ⟨trimmed, trimmed'⟩ := respaced.trim_eq
  rw [trimmed, trimmed']
  unfold Kind.ofElement
  rw [if_neg (isTokenType_iff.not.2 written.not_namesToken),
    if_neg (isTokenType_iff.not.2 written'.not_namesToken), respaced.ownedNode?_eq]

theorem vector_eq (respaced : Respaced type type') :
    (templateArgument? "std::vector" type).map Kind.ofElement =
      (templateArgument? "std::vector" type').map Kind.ofElement := by
  cases respaced with
  | @template s s' template argument named blank blank' =>
    have same := (blank.trim_argument argument).trans (blank'.trim_argument argument).symm
    rw [templateArgument?_congr (blank.instantiates template argument)
        (blank'.instantiates template argument) same named isTemplate_vector]
  | @element s s' element element' blank blank' respaced =>
    rw [templateArgument?_of_instantiates (blank.instantiates _ element),
      templateArgument?_of_instantiates (blank'.instantiates _ element'),
      blank.trim_argument, blank'.trim_argument, Option.map_some, Option.map_some,
      respaced.ofElement_eq]

/-- The kind is told alike. -/
theorem ofType_eq (respaced : Respaced type type') (marks : Text) :
    Kind.ofType type marks = Kind.ofType type' marks := by
  obtain ⟨_, _, _, written, written'⟩ := respaced.instantiates
  by_cases unmarked : marks = []
  · subst unmarked
    rw [Kind.ofType_unmarked written.not_namesToken, Kind.ofType_unmarked written'.not_namesToken,
      respaced.vector_eq, respaced.ownedNode?_eq, if_neg written.ne_any, if_neg written'.ne_any]
  · rw [Kind.ofType_marked written.not_namesToken unmarked,
      Kind.ofType_marked written'.not_namesToken unmarked]

end Respaced

/-! ### Members that point -/

/-- The member is a pointer or a reference: a mark stands before its name, blanks apart. -/
def Points (f : Field) : Prop := f.marks ≠ [] ∨ ∃ c ∈ (trimEnd f.type).getLast?, isMark c = true

/-- What is moved has no mark on its name and none at the end of its type. -/
theorem Kind.Shown.type_of_isMoved {type marks : Text} {k : Kind} (shown : k.Shown type marks)
    (moved : k.isMoved = true) :
    marks = [] ∧ ∃ before c, type = before ++ [c] ∧ isMark c = false ∧ isBlank c = false := by
  have bracket {template inner : Text} (written : Instantiates template inner type) :
      ∃ before c, type = before ++ [c] ∧ isMark c = false ∧ isBlank c = false := by
    obtain ⟨before, text⟩ := written.ends
    exact ⟨before, '>', text, by decide, by decide⟩
  cases shown with
  | token => cases moved
  | tokens unmarked vector => exact ⟨unmarked, bracket vector⟩
  | children unmarked vector => exact ⟨unmarked, bracket vector⟩
  | child unmarked owns => exact ⟨unmarked, owns.elim bracket bracket⟩
  | anyValue unmarked any => exact ⟨unmarked, "std::an", 'y', by simp [any], by decide, by decide⟩

/-- A constructor does not move into a pointer or a reference. -/
theorem Points.isMoved_eq_false {f : Field} (points : f.Points) : f.kind.isMoved = false := by
  rcases Kind.ofType_cases f.type f.marks with plain | shown
  · rw [kind, plain]
    rfl
  · rw [Bool.eq_false_iff]
    intro moved
    obtain ⟨unmarked, before, c, type, unpointed, bare⟩ := shown.type_of_isMoved moved
    rcases points with marked | ⟨d, last, mark⟩
    · exact marked unmarked
    · rw [type, trimEnd, dropEndWhile_append_of_neg before bare, List.getLast?_concat,
        Option.mem_some] at last
      rw [last, mark] at unpointed
      cases unpointed

/-- A member that shows a kind and is no token is moved. -/
theorem Kind.Shown.isMoved {type marks : Text} {k : Kind} (shown : k.Shown type marks)
    (plain : ¬ NamesToken type) : k.isMoved = true := by
  cases shown with
  | token named => exact absurd named plain
  | tokens => rfl
  | children => rfl
  | child => rfl
  | anyValue => rfl

/-- A pointer or a reference is a token or plain. -/
theorem Points.kind_eq {f : Field} (points : f.Points) :
    f.kind = if isTokenType f.type then .token else .plain := by
  by_cases token : NamesToken f.type
  case pos =>
    have isToken := isTokenType_iff.2 token
    rw [kind, Kind.ofType, if_pos isToken, if_pos isToken]
  case neg =>
    rw [if_neg (isTokenType_iff.not.2 token)]
    refine (Kind.ofType_cases f.type f.marks).resolve_right fun shown => ?_
    exact Bool.eq_false_iff.1 points.isMoved_eq_false (shown.isMoved token)

/-- **The kind of a member.** A member is of the kind that it shows, and plain if it shows none. It
shows at most one. Blanks at the brackets of a template tell nothing, and a pointer or reference is
copied. -/
theorem kind_eq_iff_shown (f : Field) :
    (∀ k : Kind, f.kind = k ↔
        k.Shown f.type f.marks ∨ k = .plain ∧ ∀ k' : Kind, ¬ k'.Shown f.type f.marks) ∧
      (∀ k k' : Kind, k.Shown f.type f.marks → k'.Shown f.type f.marks → k = k') ∧
      (∀ g : Field, Respaced f.type g.type → f.marks = g.marks → f.kind = g.kind) ∧
      (f.Points → f.kind.isMoved = false ∧ f.initializer = f.name ++ "(" ++ f.name ++ ")") := by
  have shows {k : Kind} (shown : k.Shown f.type f.marks) : f.kind = k := shown.ofType_eq
  refine ⟨fun k => ⟨?_, ?_⟩, fun k k' shown shown' => ?_, fun g respaced marks => ?_,
    fun points => ?_⟩
  case refine_1 =>
    rintro rfl
    rcases Kind.ofType_cases f.type f.marks with plain | shown
    · refine .inr ⟨plain, fun k' shown => ?_⟩
      obtain rfl : k' = .plain := (shows shown).symm.trans plain
      cases shown
    · exact .inl shown
  case refine_2 =>
    rintro (shown | ⟨rfl, none⟩)
    · exact shows shown
    · exact (Kind.ofType_cases f.type f.marks).resolve_right (none _)
  case refine_3 => rw [← shows shown, shows shown']
  case refine_4 => rw [kind, kind, ← marks, respaced.ofType_eq]
  case refine_5 =>
    have copied := points.isMoved_eq_false
    exact ⟨copied, by rw [initializer, copied]; rfl⟩

/-- Shared pairs in a vector, with the given blanks at the brackets. -/
def sharedPairs (vector pointer : Spacing) : Field where
  type := vector.wrap "std::vector" (pointer.wrap "std::shared_ptr" "Pair<A, B>")
  marks := []
  name := "pairs"

theorem kind_eq_iff_shown_spaced :
    parse? "std::vector <\tstd::shared_ptr< Pair<A, B> > > pairs" =
        some (sharedPairs ⟨" ", "\t", " "⟩ ⟨[], " ", " "⟩) ∧
      (sharedPairs ⟨" ", "\t", " "⟩ ⟨[], " ", " "⟩).kind = .children "Pair<A, B>" ∧
      (sharedPairs ⟨[], [], []⟩ ⟨[], [], []⟩).kind = .children "Pair<A, B>" ∧
      (⟨"std::unique_ptr<Expr> const&", [], "owner"⟩ : Field).initializer = "owner(owner)" := by
  have outer : Spacing.Blank ⟨" ", "\t", " "⟩ := by decide +kernel
  have inner : Spacing.Blank ⟨[], " ", " "⟩ := by decide +kernel
  have tight : Spacing.Blank ⟨[], [], []⟩ := by decide +kernel
  have shown : Kind.Shown (sharedPairs ⟨" ", "\t", " "⟩ ⟨[], " ", " "⟩).type []
      (.children "Pair<A, B>") := by
    have element : Owns (" " ++ "Pair<A, B>" ++ " ")
        (trim ("\t" ++ Spacing.wrap ⟨[], " ", " "⟩ "std::shared_ptr" "Pair<A, B>" ++ " ")) := by
      rw [outer.trim_argument, (inner.instantiates _ _).trim_eq isTemplate_shared]
      exact .inr (inner.instantiates _ _)
    have node : trim (" " ++ "Pair<A, B>" ++ " ") = "Pair<A, B>" := by decide +kernel
    rw [← node]
    exact .children rfl (outer.instantiates _ _) element
  obtain ⟨kinds, -, respaced, -⟩ :=
    kind_eq_iff_shown (sharedPairs ⟨" ", "\t", " "⟩ ⟨[], " ", " "⟩)
  have told := (kinds _).2 (.inl shown)
  refine ⟨by decide +kernel, told, ?_, ?_⟩
  · have same := respaced (sharedPairs ⟨[], [], []⟩ ⟨[], [], []⟩)
      (.element outer tight (.template isTemplate_shared inner tight)) rfl
    exact same.symm.trans told
  · have points : Points ⟨"std::unique_ptr<Expr> const&", [], "owner"⟩ :=
      .inr ⟨'&', by decide +kernel, by decide⟩
    obtain ⟨-, -, -, copied⟩ := kind_eq_iff_shown ⟨"std::unique_ptr<Expr> const&", [], "owner"⟩
    rw [(copied points).2]
    decide +kernel

end NodeClasses.Field
