import Enrollment.Audit

/-! # Sample things

Identifiers, a moment, and audit blocks for the things that the results are tried on. -/

namespace Enrollment.Sample

def ident (n : Nat) : Uuid := ⟨BitVec.ofNat 128 n⟩

def noon : Instant := { Instant.epoch with second := 43200 }

def block (n : Nat) : Audit := .fresh (ident n) "registrar" noon

end Enrollment.Sample
