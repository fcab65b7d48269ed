import NodeClasses.CodeUnit

/-!
# Units as logs

A unit may be asked for one family after another, whatever came of the families before. `attempt`
is the unit that this leaves, and `emitted` is its log: the families that could be coded, with their
code. `start_isLog` says that both texts are those of the log after each step, and that a family
that fails leaves nothing behind.
-/

namespace NodeClasses.CodeUnit
set_option autoImplicit false

/-- The unit after an attempt to push each of the families, in order. -/
def attempt (u : CodeUnit) (fs : List Family) : CodeUnit := fs.foldl (fun v f => (v.tryPush f).1) u

/-- The families that can be coded, in order, each with its code. -/
def emitted (fs : List Family) : List (Family × CodeUnit) :=
  fs.filterMap fun f => f.code.toOption.map fun v => (f, v)

/-- The code of the families in a log, one behind the other. -/
def joined (log : List (Family × CodeUnit)) : CodeUnit where
  header := log.flatMap fun entry => entry.2.header
  source := log.flatMap fun entry => entry.2.source

theorem emitted_cons_of_ok {f : Family} {v : CodeUnit} (fs : List Family) (h : f.code = .ok v) :
    emitted (f :: fs) = (f, v) :: emitted fs := by
  simp [emitted, h, Except.toOption]

theorem emitted_cons_of_error {f : Family} {e : MalformedEntry} (fs : List Family)
    (h : f.code = .error e) : emitted (f :: fs) = emitted fs := by
  simp [emitted, h, Except.toOption]

theorem attempt_cons (u : CodeUnit) (f : Family) (fs : List Family) :
    u.attempt (f :: fs) = (u.tryPush f).1.attempt fs := rfl

/-- One more attempt is made on the unit that the attempts before it left. -/
theorem attempt_take_succ (u : CodeUnit) {fs : List Family} {n : Nat} {f : Family}
    (h : fs[n]? = some f) :
    u.attempt (fs.take (n + 1)) = ((u.attempt (fs.take n)).tryPush f).1 := by
  rw [List.take_add_one, h, attempt, List.foldl_append]
  rfl

/-- Attempts append the code of the families that can be coded. -/
theorem attempt_eq (u : CodeUnit) (fs : List Family) : u.attempt fs = u ++ joined (emitted fs) := by
  induction fs generalizing u with
  | nil =>
    show u = CodeUnit.mk (u.header ++ []) (u.source ++ [])
    simp
  | cons f fs ih =>
    rw [attempt_cons, ih]
    cases coded : f.code with
    | error e => rw [tryPush_of_error coded, emitted_cons_of_error fs coded]
    | ok v =>
      rw [tryPush_of_ok coded, emitted_cons_of_ok fs coded, append_assoc]
      rfl

/-- The families without those that fail. -/
def codable (fs : List Family) : List Family := fs.filter fun f => f.code.toOption.isSome

theorem codable_cons_of_ok {f : Family} {v : CodeUnit} (fs : List Family) (h : f.code = .ok v) :
    codable (f :: fs) = f :: codable fs := by
  simp [codable, h, Except.toOption]

theorem codable_cons_of_error {f : Family} {e : MalformedEntry} (fs : List Family)
    (h : f.code = .error e) : codable (f :: fs) = codable fs := by
  simp [codable, h, Except.toOption]

/-- Without the families that fail, no attempt fails, and the unit is the same. -/
theorem pushAll_codable (u : CodeUnit) (fs : List Family) :
    u.pushAll (codable fs) = .ok (u.attempt fs) := by
  induction fs generalizing u with
  | nil => rfl
  | cons f fs ih =>
    rw [attempt_cons]
    cases coded : f.code with
    | error e => rw [tryPush_of_error coded, codable_cons_of_error fs coded, ih]
    | ok v =>
      have pushed : u.push f = .ok (u ++ v) := by simp [push, coded, Except.map]
      rw [tryPush_of_ok coded, codable_cons_of_ok fs coded, pushAll_cons, pushed]
      exact ih (u ++ v)

theorem emitted_codable (fs : List Family) : emitted (codable fs) = emitted fs := by
  induction fs with
  | nil => rfl
  | cons f fs ih =>
    cases coded : f.code with
    | error e => rw [codable_cons_of_error fs coded, emitted_cons_of_error fs coded, ih]
    | ok v =>
      rw [codable_cons_of_ok fs coded, emitted_cons_of_ok _ coded, emitted_cons_of_ok fs coded, ih]

/-- The families of a log are those that can be coded. -/
theorem families_emitted (fs : List Family) : (emitted fs).map Prod.fst = codable fs := by
  induction fs with
  | nil => rfl
  | cons f fs ih =>
    cases coded : f.code with
    | error e => rw [emitted_cons_of_error fs coded, codable_cons_of_error fs coded, ih]
    | ok v => rw [emitted_cons_of_ok fs coded, codable_cons_of_ok fs coded, List.map_cons, ih]

/-- What attempts on a unit do to it: it is a log of those that succeed. -/
structure IsLog (u : CodeUnit) (fs : List Family) : Prop where
  /-- The header has the families that were coded so far, in order. -/
  header : ∀ n, (u.attempt (fs.take n)).header =
    u.header ++ (emitted (fs.take n)).flatMap fun entry => entry.2.header
  /-- The source has the same families in the same order. -/
  source : ∀ n, (u.attempt (fs.take n)).source =
    u.source ++ (emitted (fs.take n)).flatMap fun entry => entry.2.source
  succeeds : ∀ n f v, fs[n]? = some f → f.code = .ok v →
    (u.attempt (fs.take n)).tryPush f = (u.attempt (fs.take (n + 1)), none)
  /-- A family that fails is answered with its fault, and the unit stays as it was. -/
  fails : ∀ n f e, fs[n]? = some f → f.code = .error e →
    (u.attempt (fs.take n)).tryPush f = (u.attempt (fs.take n), some e) ∧
      u.attempt (fs.take (n + 1)) = u.attempt (fs.take n)
  families : (emitted fs).map Prod.fst = codable fs
  /-- Attempts that fail may be left out. -/
  withoutFailing : u.attempt (codable fs) = u.attempt fs
  pushed : u.pushAll (codable fs) = .ok (u.attempt fs)

/-- **A unit is a log.** A unit that is started and then asked for families has the code of those
that can be coded, one behind the other, and nothing of the others. -/
theorem start_isLog (stem : Text) (includes : List Text) (fs : List Family) :
    (start stem includes).IsLog fs := by
  generalize start stem includes = u
  constructor
  case header =>
    intro n
    rw [attempt_eq]
    rfl
  case source =>
    intro n
    rw [attempt_eq]
    rfl
  case succeeds =>
    intro n f v here coded
    rw [attempt_take_succ u here, tryPush_of_ok coded]
  case fails =>
    intro n f e here coded
    rw [attempt_take_succ u here, tryPush_of_error coded]
    exact ⟨rfl, rfl⟩
  case families => exact families_emitted fs
  case withoutFailing => rw [attempt_eq, attempt_eq, emitted_codable]
  case pushed => exact pushAll_codable u fs

/-- Families of which the second cannot be coded. -/
def interrupted : List Family :=
  [⟨"Expr", [⟨"Literal", ["std::any value"]⟩], by decide +kernel⟩,
    ⟨"Decl", [⟨"Var", ["Token name"]⟩, ⟨"Fun", ["Token name", "body"]⟩], by decide +kernel⟩,
    ⟨"Stmt", [⟨"Print", ["std::unique_ptr<Expr> expr"]⟩], by decide +kernel⟩]

theorem start_isLog_interrupted :
    (codable interrupted).map Family.base = [("Expr" : Text), "Stmt"] ∧
      (start "ast" ["<any>"]).IsLog interrupted :=
  ⟨by decide +kernel, start_isLog "ast" ["<any>"] interrupted⟩

end NodeClasses.CodeUnit
