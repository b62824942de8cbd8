import Treer.PrivateState.Quota

/-!
# The headroom that is reported

What `usage` says is available is exactly what `reserve` accepts. A reservation that is made
and released leaves no trace, and none concerns another Agent.
-/

namespace Treer.PrivateState

open Foundation Protocol List Table

namespace QuotaLedger

variable {ledger : QuotaLedger} {agentId other id : String} {bytes freeBytes now : Nat}

/-- No reservation has expired. -/
def Live (ledger : QuotaLedger) (now : Nat) : Prop :=
  ∀ reservation ∈ ledger.reservations, now < reservation.expiresAt

theorem Live.expire (live : ledger.Live now) : ledger.expire now = ledger := by
  have same : ledger.reservations.delete (·.expiresAt ≤ now) = ledger.reservations :=
    Table.ext (filter_eq_self.mpr fun reservation mem => by simpa using live reservation mem)
  rw [QuotaLedger.expire, same]

/-- One Agent is measured, one cannot be, and two have open reservations. -/
def busy : QuotaLedger :=
  let measured := ((new {}).record "worker" (some ⟨100000000, 12, false⟩)).record "broken" none
  let reserved := (measured.reserve "other" 8192 (2 ^ 31) 0 "psr_1").2
  (reserved.reserve "worker" 4096 (2 ^ 31) 1 "psr_2").2

/-- The largest number for both caps, and a directory too large to be counted. -/
def full : QuotaLedger :=
  (new { agentBytes := u64Max, globalBytes := u64Max }).record "worker" (some ⟨0, 0, true⟩)

end QuotaLedger
end Treer.PrivateState
