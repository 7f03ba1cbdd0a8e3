import OsdMigration.Ceph.Command
import OsdMigration.Settings
import OsdMigration.Text.Numeral

set_option autoImplicit false

/-! # Numbers of OSDs in names

A number of the 32-bit range is read back from its numeral. So the names, commands and deployments
made from the numbers of two OSDs are the same only if the OSDs are.
-/

namespace OsdMigration

namespace Text

theorem digit?_of_isDigit {c : Char} (h : c.isDigit = true) :
    digit? c = some (c.toNat - '0'.toNat) := by
  have h := Char.isDigit_iff_toNat.1 h
  unfold digit?
  rw [if_pos]
  exact ⟨Char.le_def.2 (UInt32.le_iff_toNat_le.2 h.1), Char.le_def.2 (UInt32.le_iff_toNat_le.2 h.2)⟩

theorem digitsFrom?_of_isDigit (acc : Nat) (cs : List Char) (h : ∀ c ∈ cs, c.isDigit = true) :
    digitsFrom? acc cs = some (Nat.ofDigitChars 10 cs acc) := by
  induction cs generalizing acc with
  | nil => rfl
  | cons c cs ih =>
      rw [digitsFrom?, digit?_of_isDigit (h c List.mem_cons_self), Option.bind_some,
        ih _ fun d hd => h d (List.mem_cons_of_mem _ hd), Nat.ofDigitChars_cons, Nat.mul_comm 10]

/-- A run of ASCII digits is the numeral of a number. -/
def Denotes (ds : List Char) (n : Nat) : Prop :=
  (∀ d ∈ ds, d.isDigit = true) ∧ Nat.ofDigitChars 10 ds 0 = n

theorem isDigit_of_digit? {c : Char} {n : Nat} (h : digit? c = some n) : c.isDigit = true := by
  unfold digit? at h
  split at h
  · rename_i hc
    exact Char.isDigit_iff_toNat.2 ⟨Char.le_def.1 hc.1, Char.le_def.1 hc.2⟩
  · cases h

theorem isDigit_of_digitsFrom? {ds : List Char} {acc n : Nat} (h : digitsFrom? acc ds = some n) :
    ∀ d ∈ ds, d.isDigit = true := by
  induction ds generalizing acc with
  | nil => exact fun d hd => absurd hd List.not_mem_nil
  | cons c cs ih =>
      obtain ⟨v, hv, h⟩ := Option.bind_eq_some_iff.1 h
      exact List.forall_mem_cons.2 ⟨isDigit_of_digit? hv, ih h⟩

theorem digitsFrom?_eq_some {ds : List Char} {n : Nat} :
    digitsFrom? 0 ds = some n ↔ Denotes ds n := by
  constructor
  · intro h
    have hds := isDigit_of_digitsFrom? h
    rw [digitsFrom?_of_isDigit 0 ds hds] at h
    exact ⟨hds, Option.some.inj h⟩
  · rintro ⟨hds, rfl⟩
    exact digitsFrom?_of_isDigit 0 ds hds

/-- A natural number is read back from its numeral. -/
theorem natural?_toDigits (n : Nat) : natural? (Nat.toDigits 10 n) = some n := by
  have hd : ∀ c ∈ Nat.toDigits 10 n, c.isDigit = true := fun c hc =>
    Nat.isDigit_of_mem_toDigits (by omega) (by omega) hc
  have hn := digitsFrom?_of_isDigit 0 _ hd
  rw [Nat.ofDigitChars_ten_toDigits] at hn
  cases h : Nat.toDigits 10 n with
  | nil => exact absurd h Nat.toDigits_ne_nil
  | cons c cs =>
      rw [h] at hd hn
      have hc : c ≠ '+' := by
        rintro rfl
        exact absurd (hd _ List.mem_cons_self) (by decide)
      unfold natural?
      split
      · rename_i hp
        exact absurd (List.cons.inj hp).1 hc
      · exact hn

/-- A number of the 32-bit range is read back from its numeral. -/
theorem uint32?_toString (n : UInt32) : uint32? (toString n) = some n := by
  have h : (toString n).toList = Nat.toDigits 10 n.toNat := Nat.toList_repr
  rw [uint32?, h, natural?_toDigits, Option.bind_some, if_pos n.toNat_lt, UInt32.ofNat_toNat]

end Text

theorem toString_injective {m n : UInt32} (h : toString m = toString n) : m = n := by
  have := Text.uint32?_toString m
  rw [h, Text.uint32?_toString] at this
  exact (Option.some.inj this).symm

theorem Settings.osdDeployment_injective {s : Settings} {m n : UInt32}
    (h : s.osdDeployment m = s.osdDeployment n) : m = n :=
  toString_injective (String.append_right_inj _ |>.1 h)

namespace Ceph

theorem osdName_injective {m n : UInt32} (h : osdName m = osdName n) : m = n :=
  toString_injective (String.append_right_inj _ |>.1 h)

/-- Commands with the same arguments are the same. -/
theorem Command.argv_injective {a b : Command} (h : a.argv = b.argv) : a = b := by
  cases a <;> cases b <;> simp [Command.argv] at h
  · rfl
  · rw [osdName_injective h]
  · rw [osdName_injective h]
  · rw [toString_injective h]

end Ceph

end OsdMigration
