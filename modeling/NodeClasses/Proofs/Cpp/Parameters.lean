import Mathlib.Data.List.Infix
import NodeClasses.Proofs.Text.Trimming

/-!
# Parameter lists

A parameter list is cut at its commas, but not at those between a bracket and the one that closes
it. Declarations that are joined by commas are cut apart again exactly if each comma of their own is
in such a pair of brackets and no pair goes from one declaration to another one:
`parametersOf_intercalate_iff`.
-/

namespace NodeClasses.Cpp
set_option autoImplicit false

open Text

/-- The kinds of brackets. -/
inductive Bracket where
  | angle
  | round
  | square
  | curly
  deriving DecidableEq, Repr

namespace Bracket

/-- The bracket that a character opens. -/
def opening? : Char → Option Bracket
  | '<' => some .angle
  | '(' => some .round
  | '[' => some .square
  | '\x7b' => some .curly
  | _ => none

/-- The bracket that a character closes. -/
def closing? : Char → Option Bracket
  | '>' => some .angle
  | ')' => some .round
  | ']' => some .square
  | '\x7d' => some .curly
  | _ => none

/-- What stays open outside the bracket that is closed, if there is one to close. An angle bracket
that is still open when brackets of another kind are closed around it was a sign of comparison. -/
def outside? (b : Bracket) : List Bracket → Option (List Bracket)
  | [] => none
  | a :: outer => if a = b then some outer else if a = .angle then outside? b outer else none

/-- The open brackets behind one more character, the innermost first. -/
def step (opened : List Bracket) (c : Char) : List Bracket :=
  match opening? c, closing? c with
  | some b, _ => b :: opened
  | none, some b => (b.outside? opened).getD opened
  | none, none => opened

end Bracket

/-- The brackets that are open behind a text, the innermost first, if `opened` are open before. -/
def openAfter (opened : List Bracket) (t : Text) : List Bracket := t.foldl Bracket.step opened

/-- None of the brackets `kept` is closed by the text, if the brackets `now` are open before. -/
def StayOpen (kept now : List Bracket) (t : Text) : Prop :=
  ∀ start, start <+: t → kept <:+ openAfter now start

instance (kept now : List Bracket) (t : Text) : Decidable (StayOpen kept now t) :=
  decidable_of_iff (∀ start ∈ t.inits, kept <:+ openAfter now start)
    (forall_congr' fun start => imp_congr_left (List.mem_inits start t))

/-- The parts of a text between its commas that are in no pair of brackets. -/
def partsOutside : List Bracket → Text → List Text
  | _, [] => [[]]
  | opened, c :: rest =>
    let parts := partsOutside (Bracket.step opened c) rest
    if c = ',' ∧ StayOpen opened opened rest then [] :: parts else parts.modifyHead (c :: ·)

/-- The parameters of a list, without the blanks around them. -/
def parametersOf (t : Text) : List Text := if t = [] then [] else (partsOutside [] t).map trim

/-- Each comma of the text is in a pair of brackets: one that is open at the comma is closed behind
it. -/
def CommasInside (opened : List Bracket) (t : Text) : Prop :=
  ∀ before after, t = before ++ ',' :: after →
    ¬ StayOpen (openAfter opened before) (openAfter opened before) after

/-- No bracket that one of the texts leaves open is closed by the texts behind it. -/
def BracketsApart : List Text → Prop
  | [] => True
  | t :: ts => StayOpen (openAfter [] t) (openAfter [] t) ts.flatten ∧ BracketsApart ts

/-! ### Brackets that stay open -/

@[simp] theorem openAfter_nil (opened : List Bracket) : openAfter opened [] = opened := rfl

@[simp] theorem openAfter_cons (opened : List Bracket) (c : Char) (t : Text) :
    openAfter opened (c :: t) = openAfter (Bracket.step opened c) t := rfl

variable {kept now : List Bracket}

@[simp] theorem stayOpen_nil : StayOpen kept now [] ↔ kept <:+ now := by
  simp [StayOpen]

theorem stayOpen_cons {c : Char} {t : Text} :
    StayOpen kept now (c :: t) ↔ kept <:+ now ∧ StayOpen kept (Bracket.step now c) t := by
  constructor
  · intro stay
    exact ⟨stay [] List.nil_prefix,
      fun start front => stay (c :: start) (List.cons_prefix_cons.2 ⟨rfl, front⟩)⟩
  · rintro ⟨first, stay⟩ start front
    rcases List.prefix_cons_iff.1 front with rfl | ⟨start, rfl, before⟩
    · exact first
    · exact stay start before

theorem stayOpen_append {t u : Text} :
    StayOpen kept now (t ++ u) ↔ StayOpen kept now t ∧ StayOpen kept (openAfter now t) u := by
  induction t generalizing now with
  | nil => exact ⟨fun stay => ⟨stayOpen_nil.2 (stay [] List.nil_prefix), stay⟩, And.right⟩
  | cons c t ih =>
    rw [List.cons_append, stayOpen_cons, stayOpen_cons, ih, and_assoc, openAfter_cons]

/-- Brackets stay open at least as long as those inside them. -/
theorem StayOpen.of_suffix {inner : List Bracket} {t : Text} (h : StayOpen inner now t)
    (outer : kept <:+ inner) : StayOpen kept now t :=
  fun start front => outer.trans (h start front)

namespace Bracket

/-- A bracket is closed inside, or the search for it goes on outside, if it does not stop. -/
theorem outside?_append (b : Bracket) (inner opened : List Bracket) :
    b.outside? (inner ++ opened) = (b.outside? inner).map (· ++ opened) ∨
      b.outside? inner = none ∧ b.outside? (inner ++ opened) = b.outside? opened := by
  induction inner with
  | nil => exact .inr ⟨rfl, rfl⟩
  | cons a inner ih =>
    simp only [List.cons_append, outside?]
    split_ifs
    · exact .inl rfl
    · exact ih
    · exact .inl rfl

theorem length_lt_of_outside? {b : Bracket} {opened outer : List Bracket}
    (closed : b.outside? opened = some outer) : outer.length < opened.length := by
  induction opened with
  | nil => simp [outside?] at closed
  | cons a opened ih =>
    unfold outside? at closed
    split_ifs at closed
    · obtain rfl := Option.some.inj closed
      simp
    · exact (ih closed).trans (by simp)

/-- Brackets that stay open have no part in what a character does. -/
theorem step_append {inner opened : List Bracket} {c : Char}
    (stay : opened <:+ step (inner ++ opened) c) :
    step (inner ++ opened) c = step inner c ++ opened := by
  unfold step at stay ⊢
  split at stay
  case h_1 => rfl
  case h_3 => rfl
  case h_2 b _ _ =>
    rcases outside?_append b inner opened with inside | ⟨none, goesOn⟩
    · rw [inside]
      cases b.outside? inner <;> rfl
    · rw [goesOn, none]
      cases closed : b.outside? opened with
      | none => rfl
      | some outer =>
        -- One of the brackets that stay open would be closed.
        rw [goesOn, closed] at stay
        exact absurd stay.length_le (Nat.not_le.2 (length_lt_of_outside? closed))

end Bracket

theorem openAfter_of_stayOpen {t : Text} (stay : StayOpen kept (now ++ kept) t) :
    openAfter (now ++ kept) t = openAfter now t ++ kept := by
  induction t generalizing now with
  | nil => rfl
  | cons c t ih =>
    obtain ⟨-, stay⟩ := stayOpen_cons.1 stay
    have first : Bracket.step (now ++ kept) c = Bracket.step now c ++ kept :=
      Bracket.step_append (stay [] List.nil_prefix)
    rw [first] at stay
    rw [openAfter_cons, openAfter_cons, first, ih stay]

/-- The brackets inside others that stay open are closed as if there were no others. -/
theorem stayOpen_append_iff {opened : List Bracket} {t : Text}
    (stay : StayOpen opened (now ++ opened) t) :
    StayOpen (kept ++ opened) (now ++ opened) t ↔ StayOpen kept now t := by
  refine forall_congr' fun start => imp_congr_right fun front => ?_
  have still : StayOpen opened (now ++ opened) start :=
    fun first before => stay first (before.trans front)
  rw [openAfter_of_stayOpen still, List.suffix_append_self_iff]

/-! ### The cuts -/

theorem partsOutside_ne_nil (opened : List Bracket) (t : Text) : partsOutside opened t ≠ [] := by
  induction t generalizing opened with
  | nil => simp [partsOutside]
  | cons c t ih =>
    simp only [partsOutside]
    split_ifs
    · simp
    · simpa using ih (Bracket.step opened c)

/-- Brackets that stay open have no part in the cuts. -/
theorem partsOutside_of_stayOpen {opened : List Bracket} {t : Text}
    (stay : StayOpen opened (now ++ opened) t) :
    partsOutside (now ++ opened) t = partsOutside now t := by
  induction t generalizing now with
  | nil => rfl
  | cons c t ih =>
    obtain ⟨-, stay⟩ := stayOpen_cons.1 stay
    have first : Bracket.step (now ++ opened) c = Bracket.step now c ++ opened :=
      Bracket.step_append (stay [] List.nil_prefix)
    rw [first] at stay
    have same : c = ',' ∧ StayOpen (now ++ opened) (now ++ opened) t ↔
        c = ',' ∧ StayOpen now now t := by
      refine and_congr_right ?_
      rintro rfl
      exact stayOpen_append_iff stay
    simp only [partsOutside, same, first, ih stay]

/-- A comma cuts the text if the brackets that are open there stay open. -/
theorem partsOutside_append {opened : List Bracket} {t u : Text}
    (stay : StayOpen (openAfter opened t) (openAfter opened t) u) :
    partsOutside opened (t ++ ',' :: u) =
      partsOutside opened t ++ partsOutside (openAfter opened t) u := by
  induction t generalizing opened with
  | nil => exact if_pos ⟨rfl, stay⟩
  | cons c t ih =>
    -- What `t` leaves open of the brackets in front of it is left open by `u` as well.
    have same : c = ',' ∧ StayOpen opened opened (t ++ ',' :: u) ↔
        c = ',' ∧ StayOpen opened opened t := by
      refine and_congr_right ?_
      rintro rfl
      rw [stayOpen_append, and_iff_left_iff_imp]
      intro within
      have outer : opened <:+ openAfter opened t := within t List.prefix_rfl
      exact stayOpen_cons.2 ⟨outer, stay.of_suffix outer⟩
    obtain ⟨part, parts, cut⟩ :=
      List.exists_cons_of_ne_nil (partsOutside_ne_nil (Bracket.step opened c) t)
    simp only [List.cons_append, partsOutside, same, ih stay, cut, openAfter_cons]
    split_ifs <;> rfl

/-- The first part ends at the first comma that is in no pair of brackets. -/
theorem exists_of_partsOutside {opened : List Bracket} {t part next : Text} {parts : List Text}
    (cut : partsOutside opened t = part :: next :: parts) :
    ∃ rest, t = part ++ ',' :: rest ∧
      StayOpen (openAfter opened part) (openAfter opened part) rest := by
  induction t generalizing opened part with
  | nil => simp [partsOutside] at cut
  | cons c t ih =>
    simp only [partsOutside] at cut
    split_ifs at cut with outside
    case pos =>
      obtain ⟨rfl, stay⟩ := outside
      obtain rfl := (List.cons.inj cut).1
      exact ⟨t, rfl, stay⟩
    case neg =>
      obtain ⟨first, others, inner⟩ :=
        List.exists_cons_of_ne_nil (partsOutside_ne_nil (Bracket.step opened c) t)
      rw [inner, List.modifyHead_cons] at cut
      obtain ⟨rfl, rfl⟩ := List.cons.inj cut
      obtain ⟨rest, rfl, stay⟩ := ih inner
      exact ⟨rest, rfl, stay⟩

/-- The parts and the commas between them make the text. -/
theorem intercalate_partsOutside (opened : List Bracket) (t : Text) :
    List.intercalate [','] (partsOutside opened t) = t := by
  induction t generalizing opened with
  | nil => rfl
  | cons c t ih =>
    have rest := ih (Bracket.step opened c)
    obtain ⟨part, parts, cut⟩ :=
      List.exists_cons_of_ne_nil (partsOutside_ne_nil (Bracket.step opened c) t)
    simp only [partsOutside, cut] at rest ⊢
    split_ifs with outside
    · rw [List.intercalate_cons_cons, rest, outside.1]
      rfl
    · cases parts with
      | nil => simpa using rest
      | cons next parts =>
        rw [List.intercalate_cons_cons] at rest
        simp [List.intercalate_cons_cons, rest]

/-- A text is one part exactly if its commas are in pairs of brackets. -/
theorem partsOutside_eq_singleton_iff {opened : List Bracket} {t : Text} :
    partsOutside opened t = [t] ↔ CommasInside opened t := by
  constructor
  · rintro single before after rfl stay
    have cut := partsOutside_append stay
    rw [single] at cut
    have sizes := congrArg List.length cut
    have first := List.length_pos_of_ne_nil (partsOutside_ne_nil opened before)
    have second :=
      List.length_pos_of_ne_nil (partsOutside_ne_nil (openAfter opened before) after)
    simp only [List.length_append, List.length_singleton] at sizes
    omega
  · intro inside
    cases cut : partsOutside opened t with
    | nil => exact absurd cut (partsOutside_ne_nil opened t)
    | cons part parts =>
      cases parts with
      | nil =>
        have whole := intercalate_partsOutside opened t
        rw [cut, List.intercalate_singleton] at whole
        rw [whole]
      | cons next parts =>
        obtain ⟨rest, split, stay⟩ := exists_of_partsOutside cut
        exact absurd stay (inside part rest split)

instance (opened : List Bracket) (t : Text) : Decidable (CommasInside opened t) :=
  decidable_of_iff (partsOutside opened t = [t]) partsOutside_eq_singleton_iff

instance decidableBracketsApart : (ts : List Text) → Decidable (BracketsApart ts)
  | [] => .isTrue trivial
  | _ :: ts => @instDecidableAnd _ _ inferInstance (decidableBracketsApart ts)

/-! ### Characters other than brackets -/

/-- Is the character a bracket? -/
def isBracket (c : Char) : Bool := (Bracket.opening? c).isSome || (Bracket.closing? c).isSome

/-- The brackets of a text, without what is between them. -/
def brackets (t : Text) : Text := t.filter isBracket

theorem Bracket.step_of_not_isBracket {c : Char} (plain : isBracket c = false)
    (opened : List Bracket) : step opened c = opened := by
  simp only [isBracket, Bool.or_eq_false_iff, Option.isSome_eq_false_iff,
    Option.isNone_iff_eq_none] at plain
  simp [step, plain]

@[simp] theorem openAfter_brackets (opened : List Bracket) (t : Text) :
    openAfter opened (brackets t) = openAfter opened t := by
  induction t generalizing opened with
  | nil => rfl
  | cons c t ih =>
    cases plain : isBracket c with
    | true => simpa [brackets, plain] using ih (Bracket.step opened c)
    | false => simpa [brackets, plain, Bracket.step_of_not_isBracket plain] using ih opened

@[simp] theorem stayOpen_brackets {t : Text} :
    StayOpen kept now (brackets t) ↔ StayOpen kept now t := by
  induction t generalizing now with
  | nil => rfl
  | cons c t ih =>
    cases plain : isBracket c with
    | true => simpa [brackets, plain, stayOpen_cons] using fun _ => ih
    | false =>
      have first : StayOpen kept now t → kept <:+ now := fun stay => stay [] List.nil_prefix
      rw [stayOpen_cons, Bracket.step_of_not_isBracket plain, and_iff_right_of_imp first, ← ih]
      simp [brackets, plain]

theorem brackets_append (t u : Text) : brackets (t ++ u) = brackets t ++ brackets u :=
  List.filter_append ..

theorem brackets_eq_nil {t : Text} (plain : ∀ c ∈ t, isBracket c = false) : brackets t = [] :=
  List.filter_eq_nil_iff.2 fun c member => by simp [plain c member]

theorem brackets_intercalate {separator : Text} (plain : ∀ c ∈ separator, isBracket c = false)
    (ts : List Text) : brackets (List.intercalate separator ts) = brackets ts.flatten := by
  induction ts with
  | nil => rfl
  | cons t ts ih =>
    cases ts with
    | nil => simp
    | cons next ts =>
      rw [List.intercalate_cons_cons, brackets_append, brackets_append, brackets_eq_nil plain, ih]
      simp [brackets_append]

theorem brackets_flatten (ts : List Text) : brackets ts.flatten = (ts.map brackets).flatten :=
  List.filter_flatten

/-- Only the brackets of the texts count. -/
theorem bracketsApart_congr {ts us : List Text} (same : ts.map brackets = us.map brackets) :
    BracketsApart ts ↔ BracketsApart us := by
  induction ts generalizing us with
  | nil =>
    obtain rfl := List.map_eq_nil_iff.1 same.symm
    rfl
  | cons t ts ih =>
    cases us with
    | nil => simp at same
    | cons u us =>
      obtain ⟨first, rest⟩ := List.cons.inj same
      have opened : openAfter [] t = openAfter [] u := by
        rw [← openAfter_brackets, first, openAfter_brackets]
      have behind : brackets ts.flatten = brackets us.flatten := by
        rw [brackets_flatten, rest, brackets_flatten]
      rw [BracketsApart, BracketsApart, ih rest, opened, ← stayOpen_brackets, behind,
        stayOpen_brackets]

/-- A text behind which there are neither commas nor brackets has its commas where they were. -/
theorem commasInside_append_iff {opened : List Bracket} {t u : Text} (uncut : ',' ∉ u)
    (plain : ∀ c ∈ u, isBracket c = false) :
    CommasInside opened (t ++ u) ↔ CommasInside opened t := by
  have same {o : List Bracket} {after : Text} :
      StayOpen o o (after ++ u) ↔ StayOpen o o after := by
    rw [← stayOpen_brackets, brackets_append, brackets_eq_nil plain, List.append_nil,
      stayOpen_brackets]
  constructor
  · rintro inside before after rfl
    rw [← same]
    exact inside before (after ++ u) (by simp)
  · intro inside before after split
    rcases List.append_eq_append_iff.1 split with ⟨between, -, late⟩ | ⟨between, early, rest⟩
    · exact absurd (by simp [late]) uncut
    · cases between with
      | nil =>
        obtain rfl : ',' :: after = u := rest
        exact absurd List.mem_cons_self uncut
      | cons c between =>
        obtain ⟨rfl, rfl⟩ := List.cons.inj rest
        exact fun stay => inside before between early (same.1 stay)

/-! ### Declarations joined by commas -/

/-- Blanks in front of the first part are not seen in the parameters. -/
theorem map_trim_partsOutside_blank (opened : List Bracket) (t : Text) :
    (partsOutside opened (' ' :: t)).map trim = (partsOutside opened t).map trim := by
  have blank : partsOutside opened (' ' :: t) = (partsOutside opened t).modifyHead (' ' :: ·) := by
    rw [partsOutside, if_neg fun comma => absurd comma.1 (by decide)]
    rfl
  obtain ⟨part, parts, cut⟩ := List.exists_cons_of_ne_nil (partsOutside_ne_nil opened t)
  rw [blank, cut]
  rfl

/-- What is cut off in front of a comma, and trimmed, is the declaration in front of a comma. -/
theorem eq_of_trim_eq {part d rest behind : Text} (first : StartsBare d) (trimmed : trim part = d)
    (same : part ++ ',' :: rest = d ++ ',' :: behind) : part = d ∧ rest = behind := by
  obtain ⟨w, w', blank, blank', surrounded⟩ := exists_trim part
  have noBlanks : AllBlank [] := List.forall_mem_nil _
  rw [trimmed] at surrounded
  rw [surrounded, List.append_assoc, List.append_assoc] at same
  obtain ⟨rfl, same⟩ := blanks_append_inj blank noBlanks (first.append _) (first.append _) same
  have comma (t : Text) : StartsBare (',' :: t) := startsBare_cons.2 rfl
  obtain ⟨rfl, behindComma⟩ :=
    blanks_append_inj blank' noBlanks (comma rest) (comma behind) (List.append_cancel_left same)
  exact ⟨by simpa using surrounded, (List.cons.inj behindComma).2⟩

/-- A declaration is its only parameter exactly if its commas are in pairs of brackets. -/
theorem map_trim_partsOutside_iff {d : Text} (first : StartsBare d) (last : EndsBare d) :
    (partsOutside [] d).map trim = [d] ↔ CommasInside [] d := by
  rw [← partsOutside_eq_singleton_iff]
  constructor
  · intro single
    obtain ⟨part, cut, -⟩ := List.map_eq_singleton_iff.1 single
    have whole := intercalate_partsOutside [] d
    rw [cut, List.intercalate_singleton] at whole
    rw [cut, whole]
  · intro single
    rw [single, List.map_singleton, trim_of_bare first last]

/-- A first part that is trimmed to the whole declaration is the only one. -/
theorem eq_nil_of_trim_eq {d part : Text} {parts : List Text}
    (cut : partsOutside [] d = part :: parts) (trimmed : trim part = d) : parts = [] := by
  cases parts with
  | nil => rfl
  | cons next parts =>
    obtain ⟨rest, split, -⟩ := exists_of_partsOutside cut
    obtain ⟨w, w', -, -, surrounded⟩ := exists_trim part
    have shorter := congrArg List.length split
    have longer := congrArg List.length surrounded
    simp only [trimmed, List.length_append, List.length_cons] at shorter longer
    omega

/-- Where a declaration is cut off, the brackets that it leaves open stay open. -/
theorem stayOpen_of_cut {d next rest : Text} {others : List Text} (first : StartsBare d)
    (cut : (partsOutside [] (d ++ ',' :: rest)).map trim = d :: next :: others) :
    StayOpen (openAfter [] d) (openAfter [] d) rest := by
  obtain ⟨part, _, cut, trimmed, behind⟩ := List.map_eq_cons_iff.1 cut
  obtain ⟨_, _, rfl, -⟩ := List.map_eq_cons_iff.1 behind
  obtain ⟨_, split, stay⟩ := exists_of_partsOutside cut
  obtain ⟨rfl, rfl⟩ := eq_of_trim_eq first trimmed split.symm
  exact stay

/-- If they stay open, the declaration is cut off exactly if its own commas do not cut it. -/
theorem map_trim_partsOutside_append_iff {d rest : Text} {others : List Text}
    (first : StartsBare d) (last : EndsBare d)
    (stay : StayOpen (openAfter [] d) (openAfter [] d) rest) :
    (partsOutside [] (d ++ ',' :: rest)).map trim = d :: others ↔
      CommasInside [] d ∧ (partsOutside [] rest).map trim = others := by
  have onTop : StayOpen (openAfter [] d) ([] ++ openAfter [] d) rest := stay
  have alone : partsOutside (openAfter [] d) rest = partsOutside [] rest :=
    partsOutside_of_stayOpen onTop
  rw [partsOutside_append stay, alone, List.map_append, ← map_trim_partsOutside_iff first last]
  constructor
  · intro cut
    obtain ⟨part, parts, own⟩ := List.exists_cons_of_ne_nil (partsOutside_ne_nil [] d)
    rw [own, List.map_cons, List.cons_append] at cut
    obtain ⟨trimmed, behind⟩ := List.cons.inj cut
    obtain rfl := eq_nil_of_trim_eq own trimmed
    exact ⟨by rw [own, List.map_singleton, trimmed], behind⟩
  · rintro ⟨own, rfl⟩
    rw [own, List.singleton_append]

/-- The parts of a list that is not empty. -/
theorem partsOutside_intercalate_iff {d : Text} {ds : List Text}
    (bare : ∀ e ∈ d :: ds, StartsBare e ∧ EndsBare e) :
    (partsOutside [] (List.intercalate ", " (d :: ds))).map trim = d :: ds ↔
      (∀ e ∈ d :: ds, CommasInside [] e) ∧ BracketsApart (d :: ds) := by
  induction ds generalizing d with
  | nil =>
    obtain ⟨first, last⟩ := bare d List.mem_cons_self
    simp [map_trim_partsOutside_iff first last, BracketsApart]
  | cons e ds ih =>
    obtain ⟨⟨first, last⟩, bare⟩ := List.forall_mem_cons.1 bare
    set rest : Text := ' ' :: List.intercalate ", " (e :: ds) with isRest
    have joined : List.intercalate (", " : Text) (d :: e :: ds) = d ++ ',' :: rest := by
      simp [List.intercalate_cons_cons, isRest]
    -- The commas and blanks between the declarations neither open nor close anything.
    have apart : StayOpen (openAfter [] d) (openAfter [] d) rest ↔
        StayOpen (openAfter [] d) (openAfter [] d) (e :: ds).flatten := by
      have plain : ∀ c ∈ (", " : Text), isBracket c = false := by
        simp [isBracket, Bracket.opening?, Bracket.closing?]
      have same : brackets rest = brackets (e :: ds).flatten := brackets_intercalate plain (e :: ds)
      rw [← stayOpen_brackets, same, stayOpen_brackets]
    rw [joined, BracketsApart, ← apart, List.forall_mem_cons]
    by_cases stay : StayOpen (openAfter [] d) (openAfter [] d) rest
    case pos =>
      rw [map_trim_partsOutside_append_iff first last stay, map_trim_partsOutside_blank, ih bare,
        and_iff_right stay, and_assoc]
    case neg =>
      exact iff_of_false (fun cut => stay (stayOpen_of_cut first cut))
        fun conditions => stay conditions.2.1

/-- **What is joined by commas is cut apart again** exactly if its own commas are in pairs of
brackets and no pair goes from one declaration to another one. -/
theorem parametersOf_intercalate_iff {ds : List Text}
    (bare : ∀ d ∈ ds, StartsBare d ∧ EndsBare d) :
    parametersOf (List.intercalate ", " ds) = ds ↔
      (∀ d ∈ ds, CommasInside [] d) ∧ BracketsApart ds := by
  cases ds with
  | nil => simp [parametersOf, BracketsApart]
  | cons d ds =>
    have full : List.intercalate (", " : Text) (d :: ds) ≠ [] := by
      rintro empty
      cases ds with
      | nil => exact (bare d List.mem_cons_self).1.ne_nil (by simpa using empty)
      | cons e ds => simp [List.intercalate_cons_cons] at empty
    rw [parametersOf, if_neg full, partsOutside_intercalate_iff bare]

example : parametersOf "Pair<A, (1 < 2)> a, Open< b, int c" =
    ["Pair<A, (1 < 2)> a", "Open< b", "int c"] := by decide +kernel

end NodeClasses.Cpp
