import Budlum.CrossDomain.Bridge
import Budlum.Registry.Params

/-!
# What a split transfer pays

The relayer's fee is proportional, rounded down, and at least a minimum.  A transfer sent in parts
is rounded down once per part and topped up to the minimum once per part.

`RegistryParams.fee_le_feeOfParts_iff`: **the parts pay at least the fee of the whole exactly when
the top-ups cover what the roundings lose.**
-/

namespace Budlum

namespace RegistryParams

variable (p : RegistryParams)

def splitFee (amount : UInt64) : Except String (UInt64 × UInt64) :=
  splitBridgeFee amount p.bridgeRelayerFeePpm p.bridgeRelayerMinFee

/-- The proportional fee of an amount. -/
def bridgeShare (amount : UInt64) : Nat :=
  amount.toNat * p.bridgeRelayerFeePpm.toNat / 1000000

/-- What rounding the proportional fee down loses, in millionths. -/
def roundedOff (amount : UInt64) : Nat := amount.toNat * p.bridgeRelayerFeePpm.toNat % 1000000

/-- What the minimum adds to the proportional fee. -/
def topUp (amount : UInt64) : Nat := p.bridgeRelayerMinFee.toNat - p.bridgeShare amount

variable {p}

theorem bridgeShare_le (hp : p.validate = .ok ()) (amount : UInt64) :
    p.bridgeShare amount ≤ amount.toNat := by
  have hppm := bridgeRelayerFeePpm_lt hp
  apply Nat.div_le_of_le_mul
  rw [Nat.mul_comm 1000000]
  exact Nat.mul_le_mul_left _ (by omega)

theorem splitFee_eq_ok_iff (hp : p.validate = .ok ()) {amount net fee : UInt64} :
    p.splitFee amount = .ok (net, fee) ↔ p.bridgeRelayerMinFee < amount ∧
      fee.toNat = p.bridgeShare amount + p.topUp amount ∧
      net.toNat + fee.toNat = amount.toNat := by
  have hshare := bridgeShare_le hp amount
  simp only [splitFee, splitBridgeFee, Except.ok_iff, UInt64.ofNat?_eq_some, UInt64.lt_iff_toNat_lt, topUp]
  rw [bridgeShare] at hshare ⊢
  constructor
  · rintro ⟨-, hmin, net, hnet, fee, hfee, rfl, rfl⟩
    omega
  · rintro ⟨hmin, hfee, hsum⟩
    exact ⟨(), hmin, net, by omega, fee, by omega, rfl, rfl⟩

/-- The proportional fee of a sum is that of the parts and what their roundings add up to. -/
theorem bridgeShare_of_sum {whole : UInt64} {parts : List UInt64}
    (h : (parts.map (·.toNat)).sum = whole.toNat) : p.bridgeShare whole =
      (parts.map p.bridgeShare).sum + (parts.map p.roundedOff).sum / 1000000 := by
  have hparts : ∀ l : List UInt64, (l.map (·.toNat)).sum * p.bridgeRelayerFeePpm.toNat =
      1000000 * (l.map p.bridgeShare).sum + (l.map p.roundedOff).sum := by
    intro l
    induction l with
    | nil => simp
    | cons a l ih =>
      simp only [List.map_cons, List.sum_cons, Nat.add_mul, ih, bridgeShare, roundedOff]
      omega
  rw [bridgeShare, ← h, hparts, Nat.mul_add_div (by decide)]

/-- Each part pays its proportional fee and its top-up, and one part alone at least the minimum. -/
theorem feeOfParts (hp : p.validate = .ok ()) {parts : List UInt64} {splits : List (UInt64 × UInt64)}
    (h : parts.mapM p.splitFee = .ok splits) :
    (splits.map (·.2.toNat)).sum = (parts.map p.bridgeShare).sum + (parts.map p.topUp).sum ∧
      (parts ≠ [] → p.bridgeRelayerMinFee.toNat ≤ (splits.map (·.2.toNat)).sum) := by
  induction parts generalizing splits with
  | nil => cases h; simp
  | cons a parts ih =>
    simp only [List.mapM_cons, Except.ok_iff] at h
    obtain ⟨⟨net, fee⟩, ha, rest, hrest, rfl⟩ := h
    obtain ⟨-, hfee, -⟩ := (splitFee_eq_ok_iff hp).1 ha
    obtain ⟨hsum, -⟩ := ih hrest
    simp only [List.map_cons, List.sum_cons, hfee, hsum, topUp]
    omega

/-- **Fees of a split transfer.**  Under settings that governance can reach, every amount above the
minimum fee is split into two amounts that add up to it, and sending an amount in parts never costs
less exactly when the top-ups of the parts cover the fees that their roundings lose. -/
theorem fee_le_feeOfParts_iff (hp : p.validate = .ok ()) :
    (∀ amount, p.bridgeRelayerMinFee < amount →
      ∃ net fee, p.splitFee amount = .ok (net, fee) ∧ net.toNat + fee.toNat = amount.toNat) ∧
    ∀ {whole net fee : UInt64} {parts : List UInt64} {splits : List (UInt64 × UInt64)},
      p.splitFee whole = .ok (net, fee) → parts.mapM p.splitFee = .ok splits →
      (parts.map (·.toNat)).sum = whole.toNat →
      (fee.toNat ≤ (splits.map (·.2.toNat)).sum ↔
        (parts.map p.roundedOff).sum / 1000000 ≤ (parts.map p.topUp).sum) := by
  constructor
  · intro amount hmin
    have hshare := bridgeShare_le hp amount
    have hfit := amount.toNat_lt
    have hmin' := UInt64.lt_iff_toNat_lt.1 hmin
    have hfee : p.bridgeShare amount + p.topUp amount ≤ amount.toNat := by rw [topUp]; omega
    let fee := UInt64.ofNat (p.bridgeShare amount + p.topUp amount)
    have htoNat : fee.toNat = p.bridgeShare amount + p.topUp amount :=
      UInt64.toNat_ofNat_of_lt' (by simp only [UInt64.size]; omega)
    have hsum : (amount - fee).toNat + fee.toNat = amount.toNat := by
      rw [UInt64.toNat_sub_of_le _ _ (UInt64.le_iff_toNat_le.2 (by omega))]
      omega
    exact ⟨amount - fee, fee, (splitFee_eq_ok_iff hp).2 ⟨hmin, htoNat, hsum⟩, hsum⟩
  · intro whole net fee parts splits hwhole hparts hsum
    obtain ⟨hmin, hfee, -⟩ := (splitFee_eq_ok_iff hp).1 hwhole
    obtain ⟨htotal, hleast⟩ := feeOfParts hp hparts
    have hsome : parts ≠ [] := by
      rintro rfl
      rw [UInt64.lt_iff_toNat_lt] at hmin
      simp only [List.map_nil, List.sum_nil] at hsum
      omega
    have hleast := hleast hsome
    have hprop := bridgeShare_of_sum (p := p) hsum
    rw [topUp] at hfee
    omega

theorem fee_le_feeOfParts_default : RegistryParams.default.splitFee 3998 = .ok (3959, 39) ∧
    ((39 : UInt64).toNat ≤ ([(989, 10), (2970, 29)].map fun s : UInt64 × UInt64 => s.2.toNat).sum ↔
      ([999, 2999].map RegistryParams.default.roundedOff).sum / 1000000 ≤
        ([999, 2999].map RegistryParams.default.topUp).sum) :=
  ⟨by decide, (fee_le_feeOfParts_iff validate_default).2
    (by decide : RegistryParams.default.splitFee 3998 = .ok (3959, 39)) (by decide) (by decide)⟩

/-- Two halves of 1999 units pay 19 each, the whole pays 39. -/
theorem halves_pay_less : RegistryParams.default.splitFee 3998 = .ok (3959, 39) ∧
    [1999, 1999].mapM RegistryParams.default.splitFee = .ok [(1980, 19), (1980, 19)] :=
  ⟨by decide, by decide⟩

end RegistryParams

end Budlum
