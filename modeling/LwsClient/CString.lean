import Mathlib.Data.List.Basic

/-!
# C strings as `client.c` reads them

Header values, the offered protocol list and the registry names are
NUL-terminated C strings.  `CStr` keeps the bytes before the terminator, so a
string with an embedded NUL cannot be built, and `strcmp`, `strncmp` and
`tolower` are modelled on those bytes with the terminator read as `'\x00'`.
The lemmas reduce the comparisons `client.c` makes to list equality and
prefixes.
-/

namespace LwsClient

/-- The bytes of a C string before its terminating NUL. -/
@[ext] structure CStr where
  chars : List Char
  noNul : '\x00' ∉ chars
  deriving DecidableEq

/-- `s[i]` on a C string: its `i`-th byte, and the terminator at its length. -/
def charAt (s : List Char) (i : Nat) : Char :=
  (s.get? i).getD '\x00'

/-- libc `strcmp`: the difference of the first differing bytes, the
terminator reading as 0. -/
def strcmp : List Char → List Char → Int
  | [], [] => 0
  | [], d :: _ => -(d.toNat : Int)
  | c :: _, [] => c.toNat
  | c :: cs, d :: ds => if c = d then strcmp cs ds else (c.toNat : Int) - d.toNat

/-- libc `strncmp`: `strcmp` on at most `n` bytes. -/
def strncmp : List Char → List Char → Nat → Int
  | _, _, 0 => 0
  | [], [], _ + 1 => 0
  | [], d :: _, _ + 1 => -(d.toNat : Int)
  | c :: _, [], _ + 1 => c.toNat
  | c :: cs, d :: ds, n + 1 =>
      if c = d then strncmp cs ds n else (c.toNat : Int) - d.toNat

private theorem toNat_ofNat_of_lt {n : Nat} (small : n < 55296) :
    (Char.ofNat n).toNat = n := by
  have valid : n.isValidChar := Or.inl small
  simp only [Char.ofNat, dif_pos valid, Char.ofNatAux, Char.toNat, UInt32.toNat]
  simp

/-- C's `tolower` in the C locale, which is `Char.toLower`, on byte values. -/
theorem toNat_toLower (c : Char) :
    c.toLower.toNat = if 65 ≤ c.toNat ∧ c.toNat ≤ 90 then c.toNat + 32 else c.toNat := by
  by_cases upper : 65 ≤ c.toNat ∧ c.toNat ≤ 90
  · simp only [Char.toLower, ge_iff_le, if_pos upper]
    exact toNat_ofNat_of_lt (by omega)
  · simp only [Char.toLower, ge_iff_le, if_neg upper]

/-- A byte that is not a lower-case letter is `tolower` only of itself. -/
theorem eq_of_toLower_eq {c d : Char} (lowered : c.toLower = d)
    (notLower : d.toNat < 97 ∨ 122 < d.toNat) : c = d := by
  have values := congrArg Char.toNat lowered
  rw [toNat_toLower] at values
  split_ifs at values
  · omega
  · exact Char.ext (UInt32.toNat.inj values)

theorem toLower_ne_nul {c : Char} (nonNul : c ≠ '\x00') : c.toLower ≠ '\x00' :=
  fun lowered => nonNul (eq_of_toLower_eq lowered (by decide))

/-- `strtolower` (lines 341-348) on the bytes of a string. -/
def strtolower (s : CStr) : CStr :=
  ⟨s.chars.map Char.toLower, by
    simp only [List.mem_map, not_exists, not_and]
    intro c member lowered
    exact toLower_ne_nul (fun isNul => s.noNul (isNul ▸ member)) lowered⟩

@[simp] theorem strtolower_chars (s : CStr) :
    (strtolower s).chars = s.chars.map Char.toLower := rfl

/-- Two strings are equal up to ASCII case. -/
def EqIgnoreCase (a b : List Char) : Prop :=
  a.map Char.toLower = b.map Char.toLower

instance (a b : List Char) : Decidable (EqIgnoreCase a b) :=
  inferInstanceAs (Decidable (_ = _))

@[simp] theorem strcmp_self (s : List Char) : strcmp s s = 0 := by
  induction s with
  | nil => rfl
  | cons c cs ih => simp [strcmp, ih]

private theorem toNat_sub_ne_zero {c d : Char} (different : c ≠ d) :
    (c.toNat : Int) - d.toNat ≠ 0 := by
  intro zero
  have same : c.toNat = d.toNat := by omega
  exact different (Char.ext (UInt32.toNat.inj (by simpa [Char.toNat] using same)))

private theorem toNat_ne_zero {c : Char} (nonNul : c ≠ '\x00') : c.toNat ≠ 0 := by
  intro zero
  exact nonNul (Char.ext (UInt32.toNat.inj (by simpa [Char.toNat] using zero)))

/-- `strcmp` of two C strings is zero exactly when they are equal. -/
theorem strcmp_eq_zero_iff {a b : List Char} (aNoNul : '\x00' ∉ a) (bNoNul : '\x00' ∉ b) :
    strcmp a b = 0 ↔ a = b := by
  induction a generalizing b with
  | nil =>
      cases b with
      | nil => simp [strcmp]
      | cons d ds =>
          have := toNat_ne_zero (fun isNul => bNoNul (isNul ▸ List.mem_cons_self d ds))
          simp [strcmp]
          omega
  | cons c cs ih =>
      cases b with
      | nil =>
          have := toNat_ne_zero (fun isNul => aNoNul (isNul ▸ List.mem_cons_self c cs))
          simp [strcmp]
          omega
      | cons d ds =>
          have tailA : '\x00' ∉ cs := fun member => aNoNul (List.mem_cons_of_mem c member)
          have tailB : '\x00' ∉ ds := fun member => bNoNul (List.mem_cons_of_mem d member)
          by_cases same : c = d
          · simp [strcmp, same, ih tailA tailB]
          · simp [strcmp, same, toNat_sub_ne_zero same]

/-- `strncmp (a, b, strlen b)` is zero exactly when `b` is a prefix of `a`. -/
theorem strncmp_length_eq_zero_iff {a b : List Char} (bNoNul : '\x00' ∉ b) :
    strncmp a b b.length = 0 ↔ b <+: a := by
  induction b generalizing a with
  | nil => cases a <;> simp [strncmp]
  | cons d ds ih =>
      have tailB : '\x00' ∉ ds := fun member => bNoNul (List.mem_cons_of_mem d member)
      cases a with
      | nil =>
          have := toNat_ne_zero (fun isNul => bNoNul (isNul ▸ List.mem_cons_self d ds))
          simp [strncmp]
          omega
      | cons c cs =>
          by_cases same : c = d
          · simp [strncmp, same, ih tailB]
          · simp [strncmp, same, toNat_sub_ne_zero same, Ne.symm same]

end LwsClient
