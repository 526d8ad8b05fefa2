import Overlay.Fabric.Ascending
import Overlay.Fabric.Link

namespace Overlay.Fabric

theorem Dpid.lt_iff {a b : Dpid} : a < b ↔ a.val.toNat < b.val.toNat := UInt64.lt_iff_toNat_lt

theorem Dpid.eq_of_toNat {a b : Dpid} (h : a.val.toNat = b.val.toNat) : a = b := by
  cases a; cases b; exact congrArg _ (UInt64.toNat_inj.mp h)

instance : StrictTotal Dpid where
  irrefl _ h := Nat.lt_irrefl _ (Dpid.lt_iff.mp h)
  trans h h' := Dpid.lt_iff.mpr (Nat.lt_trans (Dpid.lt_iff.mp h) (Dpid.lt_iff.mp h'))
  lt_of_not_lt {a b} h hne := by
    have h : ¬a.val.toNat < b.val.toNat := fun hlt => h (Dpid.lt_iff.mpr hlt)
    have hne : a.val.toNat ≠ b.val.toNat := fun heq => hne (Dpid.eq_of_toNat heq)
    exact Dpid.lt_iff.mpr (by omega)

theorem Endpoint.lt_iff {a b : Endpoint} :
    a < b ↔ a.dpid < b.dpid ∨ a.dpid = b.dpid ∧ a.port.toNat < b.port.toNat := by
  show a.dpid < b.dpid ∨ a.dpid = b.dpid ∧ a.port < b.port ↔ _
  rw [UInt16.lt_iff_toNat_lt]

instance : StrictTotal Endpoint where
  irrefl a h := by
    rcases Endpoint.lt_iff.mp h with h | ⟨_, h⟩
    · exact StrictTotal.irrefl _ h
    · omega
  trans {a b c} h h' := by
    rw [Endpoint.lt_iff] at h h' ⊢
    rcases h with h | ⟨e, h⟩ <;> rcases h' with h' | ⟨e', h'⟩
    · exact .inl (StrictTotal.trans h h')
    · exact .inl (e' ▸ h)
    · exact .inl (e ▸ h')
    · exact .inr ⟨e.trans e', by omega⟩
  lt_of_not_lt {a b} h hne := by
    rw [Endpoint.lt_iff] at h ⊢
    by_cases e : a.dpid = b.dpid
    · refine .inr ⟨e.symm, ?_⟩
      have hp : a.port.toNat ≠ b.port.toNat := fun hp =>
        hne (by cases a; cases b; simp_all [UInt16.toNat_inj])
      have hlt : ¬a.port.toNat < b.port.toNat := fun hlt => h (.inr ⟨e, hlt⟩)
      omega
    · exact .inl (StrictTotal.lt_of_not_lt (fun hlt => h (.inl hlt)) e)

end Overlay.Fabric
