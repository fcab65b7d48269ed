import NodeClasses.Text.Blank

/-!
# Names and reserved words of C++

An identifier is a letter or underscore, then letters, digits and underscores, all of them ASCII.
The word lists below are those that a name must keep away from. `isBlank_of_mem` says that an
identifier holds no blank.
-/

namespace NodeClasses.Cpp
set_option autoImplicit false

/-- The code points that an identifier may begin with: letters and the underscore. -/
def nameStartRanges : List (Nat × Nat) := [(0x41, 0x5A), (0x5F, 0x5F), (0x61, 0x7A)]

/-- The code points of digits. -/
def digitRange : Nat × Nat := (0x30, 0x39)

/-- May the character begin an identifier? -/
def isNameStart (c : Char) : Bool := Text.inRanges nameStartRanges c

/-- May the character stand inside an identifier? -/
def isNameChar (c : Char) : Bool := Text.inRanges (digitRange :: nameStartRanges) c

/-- Is the text an identifier? -/
def isIdentifier : Text → Bool
  | [] => false
  | c :: rest => isNameStart c && rest.all isNameChar

theorem isIdentifier_cons {c : Char} {rest : Text} :
    isIdentifier (c :: rest) = true ↔ isNameStart c = true ∧ ∀ d ∈ rest, isNameChar d = true := by
  simp [isIdentifier]

theorem isNameChar_of_isNameStart {c : Char} (h : isNameStart c = true) : isNameChar c = true := by
  obtain ⟨r, hr, bounds⟩ := Text.inRanges_iff.1 h
  exact Text.inRanges_iff.2 ⟨r, List.mem_cons_of_mem _ hr, bounds⟩

theorem ne_nil_of_isIdentifier {t : Text} (h : isIdentifier t = true) : t ≠ [] := by
  rintro rfl
  simp [isIdentifier] at h

/-- Every character of an identifier may stand inside one. -/
theorem isNameChar_of_mem {t : Text} (h : isIdentifier t = true) {c : Char} (hc : c ∈ t) :
    isNameChar c = true := by
  cases t with
  | nil => simp at hc
  | cons d rest =>
    obtain ⟨start, tail⟩ := isIdentifier_cons.1 h
    rcases List.mem_cons.1 hc with rfl | inTail
    · exact isNameChar_of_isNameStart start
    · exact tail c inTail

/-- No range of blanks meets the letters, the digits or the underscore. -/
theorem isBlank_of_isNameChar {c : Char} (h : isNameChar c = true) : Text.isBlank c = false := by
  obtain ⟨r, hr, lo, hi⟩ := Text.inRanges_iff.1 h
  rw [Bool.eq_false_iff]
  intro blank
  obtain ⟨b, hb, lo', hi'⟩ := Text.inRanges_iff.1 blank
  have apart : ∀ r ∈ digitRange :: nameStartRanges, ∀ b ∈ Text.blankRanges,
      r.2 < b.1 ∨ b.2 < r.1 := by
    decide
  have := apart r hr b hb
  omega

/-- An identifier holds no blank. -/
theorem isBlank_of_mem {t : Text} (h : isIdentifier t = true) {c : Char} (hc : c ∈ t) :
    Text.isBlank c = false :=
  isBlank_of_isNameChar (isNameChar_of_mem h hc)

/-- The keywords and the alternative operator spellings. -/
def keywords : List Text :=
  ["alignas", "alignof", "and", "and_eq", "asm", "auto", "bitand", "bitor", "bool", "break",
    "case", "catch", "char", "char8_t", "char16_t", "char32_t", "class", "compl", "concept",
    "const", "consteval", "constexpr", "constinit", "const_cast", "continue", "co_await",
    "co_return", "co_yield", "decltype", "default", "delete", "do", "double", "dynamic_cast",
    "else", "enum", "explicit", "export", "extern", "false", "float", "for", "friend", "goto",
    "if", "inline", "int", "long", "mutable", "namespace", "new", "noexcept", "not", "not_eq",
    "nullptr", "operator", "or", "or_eq", "private", "protected", "public", "register",
    "reinterpret_cast", "requires", "return", "short", "signed", "sizeof", "static",
    "static_assert", "static_cast", "struct", "switch", "template", "this", "thread_local",
    "throw", "true", "try", "typedef", "typeid", "typename", "union", "unsigned", "using",
    "virtual", "void", "volatile", "wchar_t", "while", "xor", "xor_eq"].map Text.ofString

/-- The keywords that name fundamental types, alone or in company. -/
def fundamentalTypes : List Text :=
  ["auto", "bool", "char", "char8_t", "char16_t", "char32_t", "double", "float", "int", "long",
    "short", "signed", "unsigned", "void", "wchar_t"].map Text.ofString

/-- The keywords that qualify or introduce a type and make none by themselves. -/
def qualifiers : List Text :=
  ["class", "const", "enum", "mutable", "static", "struct", "typename", "union",
    "volatile"].map Text.ofString

end NodeClasses.Cpp
