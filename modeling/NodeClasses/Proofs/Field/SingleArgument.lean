import Mathlib.Data.List.Infix
import NodeClasses.Proofs.Field.Classification

/-!
# Single arguments of templates

The node of an owning pointer and the element of a vector are what stands between the first opening
and the last closing bracket of a type. Nothing checks that the one bracket closes the other, that
something stands between them, or that no comma separates several arguments there:
`singleArguments_iff` says what a type must be like for that.
-/

namespace NodeClasses.Field
set_option autoImplicit false

open Text

/-- The angle brackets of a text nest, and each of its commas stands in some of them. -/
structure Nests (t : Text) : Prop where
  opened : ∀ front, front <+: t → front.count '>' ≤ front.count '<'
  closed : t.count '>' = t.count '<'
  uncut : ∀ front, front ++ [','] <+: t → front.count '>' < front.count '<'

/-- The text is one argument of a template. -/
structure OneArgument (t : Text) : Prop extends Nests t where
  ne_nil : t ≠ []

/-- What the kind of the member tells about is one argument of a template: the node of an owning
pointer, and what stands between the brackets of a vector of tokens. -/
def SingleArguments (f : Field) : Prop :=
  (∀ node, f.kind = .child node ∨ f.kind = .children node → OneArgument node) ∧
    (f.kind = .tokens → ∀ inner, Instantiates "std::vector" inner f.type → OneArgument inner)

/-- The number of templates around what the kind tells about. -/
def Kind.levels : Kind → Nat
  | .tokens => 1
  | .child _ => 1
  | .children _ => 2
  | .token => 0
  | .anyValue => 0
  | .plain => 0

/-- The text starts with `front`, which ends behind its first `n` opening brackets and before its
last `n` closing ones. -/
structure Within (n : Nat) (t front : Text) : Prop where
  isPrefix : front <+: t
  behind : n ≤ front.count '<'
  before : front.count '>' + n ≤ t.count '>'

instance (n : Nat) (t front : Text) : Decidable (Within n t front) :=
  decidable_of_iff (front <+: t ∧ n ≤ front.count '<' ∧ front.count '>' + n ≤ t.count '>')
    ⟨fun ⟨isPrefix, behind, before⟩ => ⟨isPrefix, behind, before⟩,
      fun within => ⟨within.isPrefix, within.behind, within.before⟩⟩

/-- The first `n` opening brackets of the text are closed by its last `n` closing ones, and between
them is one argument of a template, with blanks around it. -/
structure EnclosesOne (n : Nat) (t : Text) : Prop where
  closed : t.count '>' = t.count '<'
  held : ∀ front, Within n t front → front.count '>' + n ≤ front.count '<'
  uncut : ∀ front, Within n t front → Within n t (front ++ [',']) →
    front.count '>' + n < front.count '<'
  filled : ∃ front c, Within n t front ∧ Within n t (front ++ [c]) ∧ isBlank c = false

/-- It is enough to look at the starts of the text. -/
theorem enclosesOne_iff {n : Nat} {t : Text} :
    EnclosesOne n t ↔ t.count '>' = t.count '<' ∧
      (∀ front ∈ t.inits, Within n t front → front.count '>' + n ≤ front.count '<') ∧
      (∀ front ∈ t.inits, Within n t front → Within n t (front ++ [',']) →
        front.count '>' + n < front.count '<') ∧
      ∃ front ∈ t.inits, ∃ c ∈ t, Within n t front ∧ Within n t (front ++ [c]) ∧
        isBlank c = false := by
  have start {front : Text} (within : Within n t front) : front ∈ t.inits :=
    (List.mem_inits front t).2 within.isPrefix
  constructor
  · rintro ⟨closed, held, uncut, front, c, within, next, bare⟩
    exact ⟨closed, fun front _ => held front, fun front _ => uncut front, front, start within, c,
      next.isPrefix.subset (by simp), within, next, bare⟩
  · rintro ⟨closed, held, uncut, front, -, c, -, filled⟩
    exact ⟨closed, fun front within => held front (start within) within,
      fun front within => uncut front (start within) within, front, c, filled⟩

instance (n : Nat) (t : Text) : Decidable (EnclosesOne n t) :=
  -- The character is looked for in the text, not among all characters.
  haveI (front : Text) : Decidable
      (∃ c ∈ t, Within n t front ∧ Within n t (front ++ [c]) ∧ isBlank c = false) :=
    List.decidableBEx _ t
  decidable_of_iff _ enclosesOne_iff.symm

/-! ### Blanks around arguments -/

section Blanks

variable {t : Text} {c : Char}

theorem ne_of_isBlank (blank : isBlank c = true) : c ≠ '<' ∧ c ≠ '>' ∧ c ≠ ',' := by
  refine ⟨?_, ?_, ?_⟩ <;> rintro rfl <;> revert blank <;> decide

theorem nests_cons (blank : isBlank c = true) : Nests (c :: t) ↔ Nests t := by
  obtain ⟨opening, closing, comma⟩ := ne_of_isBlank blank
  have opens (u : Text) : (c :: u).count '<' = u.count '<' := List.count_cons_of_ne opening
  have closes (u : Text) : (c :: u).count '>' = u.count '>' := List.count_cons_of_ne closing
  constructor
  · rintro ⟨opened, closed, uncut⟩
    refine ⟨fun front isPrefix => ?_, ?_, fun front isPrefix => ?_⟩
    · have := opened (c :: front) (List.cons_prefix_cons.2 ⟨rfl, isPrefix⟩)
      rwa [opens, closes] at this
    · rwa [opens, closes] at closed
    · have := uncut (c :: front) (List.cons_prefix_cons.2 ⟨rfl, isPrefix⟩)
      rwa [opens, closes] at this
  · rintro ⟨opened, closed, uncut⟩
    refine ⟨fun front isPrefix => ?_, ?_, fun front isPrefix => ?_⟩
    · rcases List.prefix_cons_iff.1 isPrefix with rfl | ⟨behind, rfl, inside⟩
      · simp
      · rw [opens, closes]
        exact opened behind inside
    · rwa [opens, closes]
    · cases front with
      | nil => exact absurd (List.cons_prefix_cons.1 isPrefix).1.symm comma
      | cons d behind =>
        obtain ⟨rfl, inside⟩ := List.cons_prefix_cons.1 isPrefix
        rw [opens, closes]
        exact uncut behind inside

theorem nests_concat (blank : isBlank c = true) : Nests (t ++ [c]) ↔ Nests t := by
  obtain ⟨opening, closing, comma⟩ := ne_of_isBlank blank
  have opens : (t ++ [c]).count '<' = t.count '<' := by simp [List.count_append, opening]
  have closes : (t ++ [c]).count '>' = t.count '>' := by simp [List.count_append, closing]
  constructor
  · rintro ⟨opened, closed, uncut⟩
    have longer {front : Text} (isPrefix : front <+: t) : front <+: t ++ [c] :=
      isPrefix.trans (List.prefix_append t [c])
    exact ⟨fun front isPrefix => opened front (longer isPrefix), by rw [← opens, ← closes, closed],
      fun front isPrefix => uncut front (longer isPrefix)⟩
  · rintro ⟨opened, closed, uncut⟩
    refine ⟨fun front isPrefix => ?_, by rw [opens, closes, closed], fun front isPrefix => ?_⟩
    · rcases List.prefix_concat_iff.1 isPrefix with rfl | inside
      · rw [opens, closes, closed]
      · exact opened front inside
    · rcases List.prefix_concat_iff.1 isPrefix with same | inside
      · exact absurd (List.append_singleton_inj.1 same).2.symm comma
      · exact uncut front inside

theorem nests_append_blanks {w : Text} (blank : AllBlank w) : Nests (t ++ w) ↔ Nests t := by
  induction w generalizing t with
  | nil => rw [List.append_nil]
  | cons c w ih =>
    obtain ⟨first, rest⟩ := List.forall_mem_cons.1 blank
    rw [List.append_cons, ih rest, nests_concat first]

theorem nests_blanks_append {w : Text} (blank : AllBlank w) : Nests (w ++ t) ↔ Nests t := by
  induction w with
  | nil => rw [List.nil_append]
  | cons c w ih =>
    obtain ⟨first, rest⟩ := List.forall_mem_cons.1 blank
    rw [List.cons_append, nests_cons first, ih rest]

/-- Blanks around an argument do not tell whether it is one. -/
theorem nests_trim_iff : Nests (trim t) ↔ Nests t := by
  obtain ⟨w, w', front, back, text⟩ := exists_trim t
  conv_rhs => rw [text, nests_append_blanks back, nests_blanks_append front]

end Blanks

/-! ### Brackets around arguments -/

section Brackets

variable {n : Nat} {a b q : Text}

theorem count_opened (ha : Unbracketed a) (u : Text) :
    (a ++ '<' :: u).count '<' = u.count '<' + 1 ∧ (a ++ '<' :: u).count '>' = u.count '>' := by
  simp [List.count_append, List.count_eq_zero.2 ha.1, List.count_eq_zero.2 ha.2]

theorem count_closed (hb : Unbracketed b) (u : Text) :
    (u ++ '>' :: b).count '<' = u.count '<' ∧ (u ++ '>' :: b).count '>' = u.count '>' + 1 := by
  simp [List.count_append, List.count_eq_zero.2 hb.1, List.count_eq_zero.2 hb.2]

/-- A start of the text that has an opening bracket goes up to the first one. -/
theorem exists_opened (ha : Unbracketed a) {front rest tail : Text}
    (same : front ++ rest = a ++ '<' :: tail) (opened : '<' ∈ front) :
    ∃ inner, front = a ++ '<' :: inner ∧ inner ++ rest = tail := by
  rcases List.append_eq_append_iff.1 same with ⟨u, rfl, -⟩ | ⟨u, rfl, text⟩
  · exact absurd (List.mem_append_left u opened) ha.1
  · cases u with
    | nil => exact absurd (by simpa using opened) ha.1
    | cons d inner =>
      obtain ⟨rfl, rfl⟩ := List.cons.inj text
      exact ⟨inner, rfl, rfl⟩

/-- Inside of a pair of brackets there is one pair less. -/
theorem within_wrap_iff (ha : Unbracketed a) (hb : Unbracketed b) {front : Text} :
    Within (n + 1) (a ++ '<' :: (q ++ '>' :: b)) front ↔
      ∃ inner, front = a ++ '<' :: inner ∧ Within n q inner := by
  have total : (a ++ '<' :: (q ++ '>' :: b)).count '>' = q.count '>' + 1 := by
    rw [(count_opened ha _).2, (count_closed hb _).2]
  constructor
  · rintro ⟨⟨rest, same⟩, behind, before⟩
    have opened : '<' ∈ front := List.count_pos_iff.1 (by omega)
    obtain ⟨inner, rfl, tail⟩ := exists_opened ha same opened
    rw [(count_opened ha inner).1] at behind
    rw [(count_opened ha inner).2, total] at before
    refine ⟨inner, rfl, ?_, by omega, by omega⟩
    rcases List.append_eq_append_iff.1 tail with ⟨u, rfl, -⟩ | ⟨u, rfl, close⟩
    · exact List.prefix_append inner u
    · cases u with
      | nil => simp
      | cons d u =>
        -- Behind the closing bracket too few closing ones are left.
        obtain ⟨rfl, -⟩ := List.cons.inj close
        have past : q.count '>' + 1 ≤ (q ++ '>' :: u).count '>' := by
          simp [List.count_append]
        omega
  · rintro ⟨inner, rfl, ⟨rest, rfl⟩, behind, before⟩
    refine ⟨⟨rest ++ '>' :: b, by simp⟩, ?_, ?_⟩
    · rw [(count_opened ha inner).1]
      omega
    · rw [total, (count_opened ha inner).2]
      omega

theorem within_opened_iff (ha : Unbracketed a) (hb : Unbracketed b) {inner : Text} :
    Within (n + 1) (a ++ '<' :: (q ++ '>' :: b)) (a ++ '<' :: inner) ↔ Within n q inner := by
  rw [within_wrap_iff ha hb]
  simp

/-- Brackets around a text are one pair more in which it stands. -/
theorem enclosesOne_wrap_iff (ha : Unbracketed a) (hb : Unbracketed b) :
    EnclosesOne (n + 1) (a ++ '<' :: (q ++ '>' :: b)) ↔ EnclosesOne n q := by
  have opening : (a ++ '<' :: (q ++ '>' :: b)).count '<' = q.count '<' + 1 := by
    rw [(count_opened ha _).1, (count_closed hb q).1]
  have closing : (a ++ '<' :: (q ++ '>' :: b)).count '>' = q.count '>' + 1 := by
    rw [(count_opened ha _).2, (count_closed hb q).2]
  have inside {inner : Text} :
      Within (n + 1) (a ++ '<' :: (q ++ '>' :: b)) (a ++ '<' :: inner) ↔ Within n q inner :=
    within_opened_iff ha hb
  have next {inner : Text} (c : Char) :
      Within (n + 1) (a ++ '<' :: (q ++ '>' :: b)) ((a ++ '<' :: inner) ++ [c]) ↔
        Within n q (inner ++ [c]) := by
    rw [← inside, List.append_assoc, List.cons_append]
  constructor
  · intro encloses
    constructor
    case closed =>
      have := encloses.closed
      omega
    case held =>
      intro inner within
      have := encloses.held _ (inside.2 within)
      rw [(count_opened ha inner).1, (count_opened ha inner).2] at this
      omega
    case uncut =>
      intro inner within comma
      have := encloses.uncut _ (inside.2 within) ((next ',').2 comma)
      rw [(count_opened ha inner).1, (count_opened ha inner).2] at this
      omega
    case filled =>
      obtain ⟨front, c, within, behind, bare⟩ := encloses.filled
      obtain ⟨inner, rfl, own⟩ := (within_wrap_iff ha hb).1 within
      exact ⟨inner, c, own, (next c).1 behind, bare⟩
  · intro encloses
    constructor
    case closed =>
      have := encloses.closed
      omega
    case held =>
      intro front within
      obtain ⟨inner, rfl, own⟩ := (within_wrap_iff ha hb).1 within
      have := encloses.held _ own
      rw [(count_opened ha inner).1, (count_opened ha inner).2]
      omega
    case uncut =>
      intro front within comma
      obtain ⟨inner, rfl, own⟩ := (within_wrap_iff ha hb).1 within
      have := encloses.uncut _ own ((next ',').1 comma)
      rw [(count_opened ha inner).1, (count_opened ha inner).2]
      omega
    case filled =>
      obtain ⟨inner, c, own, behind, bare⟩ := encloses.filled
      exact ⟨_, c, inside.2 own, (next c).2 behind, bare⟩

/-- Without brackets around it, the argument is the whole text. -/
theorem enclosesOne_zero_iff : EnclosesOne 0 q ↔ Nests q ∧ ∃ c ∈ q, isBlank c = false := by
  have within {front : Text} : Within 0 q front ↔ front <+: q :=
    ⟨fun within => within.isPrefix,
      fun isPrefix => ⟨isPrefix, by simp, isPrefix.sublist.count_le _⟩⟩
  constructor
  · rintro ⟨closed, held, uncut, front, c, -, next, bare⟩
    refine ⟨⟨fun front isPrefix => held front (within.2 isPrefix), closed,
      fun front isPrefix => ?_⟩, c, (within.1 next).subset (by simp), bare⟩
    exact uncut front (within.2 ((List.prefix_append front [',']).trans isPrefix))
      (within.2 isPrefix)
  · rintro ⟨⟨opened, closed, uncut⟩, c, member, bare⟩
    obtain ⟨front, behind, text⟩ := List.append_of_mem member
    have next : front ++ [c] <+: q := ⟨behind, by simp [text]⟩
    refine ⟨closed, fun front own => opened front own.isPrefix,
      fun front _ comma => uncut front comma.isPrefix, front, c, ?_, within.2 next, bare⟩
    exact within.2 ((List.prefix_append front [c]).trans next)

theorem oneArgument_trim_iff : OneArgument (trim q) ↔ EnclosesOne 0 q := by
  rw [enclosesOne_zero_iff, ← trim_ne_nil_iff, ← nests_trim_iff]
  exact ⟨fun one => ⟨one.toNests, one.ne_nil⟩, fun ⟨nests, ne_nil⟩ => ⟨nests, ne_nil⟩⟩

end Brackets

/-! ### Arguments of the templates in a type -/

section Types

variable {n : Nat} {template inner type : Text}

/-- An instance of a template has a pair of brackets more than its argument. -/
theorem Instantiates.enclosesOne_iff (written : Instantiates template inner (trim type))
    (named : IsTemplate template) : EnclosesOne (n + 1) type ↔ EnclosesOne n inner := by
  obtain ⟨w, w', front, back, text⟩ := exists_trim type
  obtain ⟨blanks, blank, core⟩ := written
  have opening : Unbracketed (w ++ template ++ blanks) :=
    ((unbracketed_of_blank front).append named.unbracketed).append (unbracketed_of_blank blank)
  have whole : type = (w ++ template ++ blanks) ++ '<' :: (inner ++ '>' :: w') := by
    rw [text, core]
    simp
  rw [whole, enclosesOne_wrap_iff opening (unbracketed_of_blank back)]

theorem Owns.enclosesOne_iff (owns : Owns inner (trim type)) :
    EnclosesOne (n + 1) type ↔ EnclosesOne n inner := by
  rcases owns with written | written
  · exact written.enclosesOne_iff isTemplate_unique
  · exact written.enclosesOne_iff isTemplate_shared

theorem Owns.trim_eq (owns : Owns inner type) : trim type = type := by
  rcases owns with written | written
  · exact written.trim_eq isTemplate_unique
  · exact written.trim_eq isTemplate_shared

end Types

/-- **What stands between the brackets.** The kind of a member tells about single arguments of
templates exactly if the templates that it looks into have their brackets at the two ends of what
is left of the type, with one argument between them. -/
theorem singleArguments_iff (f : Field) :
    SingleArguments f ↔ (f.kind.levels ≠ 0 → EnclosesOne f.kind.levels f.type) := by
  unfold SingleArguments
  -- Only what the type shows about the kind matters from here on, not how the kind is computed.
  have cases : f.kind = .plain ∨ f.kind.Shown f.type f.marks := Kind.ofType_cases f.type f.marks
  generalize f.kind = k at cases ⊢
  rcases cases with rfl | shown
  case inl => simp [Kind.levels]
  case inr =>
    cases shown with
    | token => simp [Kind.levels]
    | anyValue => simp [Kind.levels]
    | @tokens inner unmarked vector element =>
      -- That the element names a token already says that it is not empty.
      have filled : trim inner ≠ [] := by
        obtain ⟨before, c, text, -⟩ := element.last
        simp [text]
      have encloses : EnclosesOne 1 f.type ↔ OneArgument inner := by
        have written := (vector.trim_eq isTemplate_vector).symm ▸ vector
        rw [written.enclosesOne_iff isTemplate_vector, enclosesOne_zero_iff, ← trim_ne_nil_iff]
        exact ⟨fun ⟨nests, _⟩ => ⟨nests, fun empty => filled (by rw [empty]; rfl)⟩,
          fun one => ⟨one.toNests, filled⟩⟩
      have only (other : Text) (written : Instantiates "std::vector" other f.type) :
          other = inner :=
        (written.unique vector isTemplate_vector isTemplate_vector).2
      constructor
      · rintro ⟨-, single⟩ -
        exact encloses.2 (single rfl inner vector)
      · intro enclosed
        refine ⟨by simp, fun _ other written => only other written ▸ encloses.1 (enclosed ?_)⟩
        exact Nat.one_ne_zero
    | @children inner node unmarked vector element =>
      have encloses : EnclosesOne 2 f.type ↔ OneArgument (trim node) := by
        have written := (vector.trim_eq isTemplate_vector).symm ▸ vector
        rw [written.enclosesOne_iff isTemplate_vector, element.enclosesOne_iff,
          oneArgument_trim_iff]
      simp [Kind.levels, encloses]
    | @child node unmarked owns =>
      have encloses : EnclosesOne 1 f.type ↔ OneArgument (trim node) := by
        have written : Owns node (trim f.type) := owns.trim_eq.symm ▸ owns
        rw [oneArgument_trim_iff, written.enclosesOne_iff]
      simp [Kind.levels, encloses]

/-- A vector of pointers to an instance of a template with two arguments. -/
theorem singleArguments_iff_nested :
    SingleArguments ⟨"std::vector< std::shared_ptr<Pair<A, B>> >", [], "pairs"⟩ := by
  have told : kind ⟨"std::vector< std::shared_ptr<Pair<A, B>> >", [], "pairs"⟩ =
      .children "Pair<A, B>" := by
    decide +kernel
  refine (singleArguments_iff _).2 fun _ => ?_
  rw [told]
  decide +kernel

/-- Nothing has to stand between the brackets: `std::unique_ptr<>` is read as an owning pointer to
a node without a name. -/
theorem not_singleArguments :
    ¬ ∀ (entry : Text) (f : Field), parse? entry = some f → SingleArguments f := by
  intro single
  have read : parse? "std::unique_ptr<> child" = some ⟨"std::unique_ptr<>", [], "child"⟩ := by
    decide +kernel
  have told : kind ⟨"std::unique_ptr<>", [], "child"⟩ = .child [] := by decide +kernel
  exact ((single _ _ read).1 [] (.inl told)).ne_nil rfl

end NodeClasses.Field
