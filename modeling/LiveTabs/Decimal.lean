/-!
Decimal digits of whole numbers, reading them back, and powers of ten.
-/
namespace LiveTabs.Decimal

def tenPow (k : Nat) : Nat := Nat.pow 10 k

/-- The digits of a number, most significant first and without leading zeros. -/
def digits (n : Nat) : List Char := Nat.toDigits 10 n

def ofInt (n : Int) : List Char :=
  if n < 0 then '-' :: digits n.natAbs else digits n.natAbs

def digitValue (c : Char) : Nat := c.toNat - '0'.toNat

/-- Reads digits on, after those already worth `start`. -/
def valueFrom (start : Nat) (ds : List Char) : Nat :=
  ds.foldl (fun n c => 10 * n + digitValue c) start

def value (ds : List Char) : Nat := valueFrom 0 ds

/-- At least one character, and digits alone. -/
def isDigits (cs : List Char) : Bool := !cs.isEmpty && cs.all Char.isDigit

def readUnsigned? (cs : List Char) : Option Nat :=
  if isDigits cs then some (value cs) else none

/-- An optional sign and digits. -/
def readSigned? : List Char → Option Int
  | '-' :: ds => (readUnsigned? ds).map fun n => -(n : Int)
  | '+' :: ds => (readUnsigned? ds).map fun n => (n : Int)
  | ds => (readUnsigned? ds).map fun n => (n : Int)

theorem digits_ne_nil (n : Nat) : digits n ≠ [] := Nat.toDigits_ne_nil

theorem digits_all_digit (n : Nat) : (digits n).all Char.isDigit = true :=
  List.all_eq_true.mpr fun _ member =>
    Nat.isDigit_of_mem_toDigits (by decide) (by decide) member

theorem digitValue_digitChar : ∀ d, d < 10 → digitValue (Nat.digitChar d) = d := by decide

/-- Digits denote the number they were written for. -/
theorem value_digits (n : Nat) : value (digits n) = n := by
  induction n using Nat.strongRecOn with
  | ind n ih =>
    unfold digits
    rw [Nat.toDigits_eq_if (by decide)]
    split
    · next small =>
      simp [value, valueFrom, digitValue_digitChar n small]
    · next large =>
      have earlier := ih (n / 10) (Nat.div_lt_self (by omega) (by decide))
      simp only [value, valueFrom, digits] at earlier
      simp only [value, valueFrom, List.foldl_append, earlier, List.foldl_cons, List.foldl_nil]
      rw [digitValue_digitChar (n % 10) (Nat.mod_lt n (by decide))]
      omega

theorem readUnsigned?_digits (n : Nat) : readUnsigned? (digits n) = some n := by
  have full : isDigits (digits n) = true := by
    simp [isDigits, digits_ne_nil n, -List.all_eq_true, digits_all_digit n]
  simp [readUnsigned?, full, value_digits]

end LiveTabs.Decimal
