/-!
Integers as decimal and hexadecimal text, of any size and sign, and the reading of digits back
into the number they denote.
-/

namespace HeaderConstants.Text

/-- The digit for a number below sixteen, in small letters from ten on. -/
def digitChar (d : Nat) : Char :=
  if d < 10 then Char.ofNat (48 + d) else Char.ofNat (87 + d)

/-- The number that `digitChar` writes as `c`. -/
def digitValue (c : Char) : Nat :=
  if c.toNat < 58 then c.toNat - 48 else c.toNat - 87

/-- The digits of `n`, the most significant first, without leading zeros. -/
def digits (base n : Nat) : List Char :=
  if base < 2 ∨ n < base then [digitChar n]
  else digits base (n / base) ++ [digitChar (n % base)]
termination_by n
decreasing_by
  rename_i h
  exact Nat.div_lt_self (by omega) (by omega)

/-- The last `k` digits of `n`, filled up with zeros in front. -/
def lastDigits (base : Nat) : Nat → Nat → List Char
  | 0, _ => []
  | k + 1, n => lastDigits base k (n / base) ++ [digitChar (n % base)]

/-- The number that digits stand for in a base. -/
def readDigits (base : Nat) (ds : List Char) : Nat :=
  ds.foldl (fun n c => n * base + digitValue c) 0

def signed (n : Int) (magnitude : List Char) : String :=
  String.ofList (if n < 0 then '-' :: magnitude else magnitude)

/-- A number in decimal. -/
def decimal (n : Int) : String := signed n (digits 10 n.natAbs)

/-- A number in hexadecimal, with its mark. -/
def hexadecimal (n : Int) : String := signed n ('0' :: 'x' :: digits 16 n.natAbs)

theorem digitValue_digitChar {d : Nat} (h : d < 16) : digitValue (digitChar d) = d := by
  have key : ∀ n ∈ List.range 16, digitValue (digitChar n) = n := by decide
  exact key d (List.mem_range.mpr h)

theorem readDigits_append (base : Nat) (ds : List Char) (c : Char) :
    readDigits base (ds ++ [c]) = readDigits base ds * base + digitValue c := by
  simp [readDigits]

theorem readDigits_digits {base : Nat} (h : 2 ≤ base) (h' : base ≤ 16) (n : Nat) :
    readDigits base (digits base n) = n := by
  induction n using Nat.strongRecOn with
  | ind n ih =>
    rw [digits]
    split
    · have : n < 16 := by omega
      simp [readDigits, digitValue_digitChar this]
    · have hlt : n / base < n := Nat.div_lt_self (by omega) (by omega)
      have hmod : n % base < base := Nat.mod_lt _ (by omega)
      rw [readDigits_append, ih _ hlt, digitValue_digitChar (by omega), Nat.mul_comm]
      exact Nat.div_add_mod n base

theorem length_lastDigits (base k n : Nat) : (lastDigits base k n).length = k := by
  induction k generalizing n with
  | zero => rfl
  | succ k ih => simp [lastDigits, ih]

theorem readDigits_lastDigits {base : Nat} (h : 2 ≤ base) (h' : base ≤ 16) (k n : Nat) :
    readDigits base (lastDigits base k n) = n % base.pow k := by
  induction k generalizing n with
  | zero => exact (Nat.mod_one n).symm
  | succ k ih =>
    have hmod : n % base < base := Nat.mod_lt _ (by omega)
    have hpow : base.pow (k + 1) = base * base.pow k := Nat.pow_succ'
    rw [lastDigits, readDigits_append, ih, digitValue_digitChar (by omega), hpow, Nat.mod_mul,
      Nat.mul_comm, Nat.add_comm]

end HeaderConstants.Text
