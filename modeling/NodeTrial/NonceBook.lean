import NodeTrial.Table

/-! Nonces. Every signer numbers its transactions from zero, each signer on its own.
-/

namespace NodeTrial

/-- The number of nonces handed out to each signer so far. -/
structure NonceBook where
  used : Table UInt64
  deriving DecidableEq

namespace NonceBook

/-- The book before any nonce is handed out. -/
def empty : NonceBook :=
  ⟨.empty⟩

instance : Inhabited NonceBook := ⟨empty⟩

/-- The nonce that a signer gets next. -/
def upcoming (b : NonceBook) (key : String) : UInt64 :=
  (b.used.get? key).getD 0

/-- Hands a signer its next nonce. -/
def next (b : NonceBook) (key : String) : UInt64 × NonceBook :=
  (b.upcoming key, ⟨b.used.insert key (b.upcoming key + 1)⟩)

end NonceBook

end NodeTrial
