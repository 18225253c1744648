import Mathlib

/-!
# Holdings and movements

A movement takes an amount of an asset from one holder to another.  Executing a
list of movements changes a holder's position by what it received less what was
drawn from it, and a movement of a holder to itself cancels out.
-/

namespace Relayer.Ledger

variable {Holder Asset : Type} [DecidableEq Holder] [DecidableEq Asset]

structure Movement (Holder Asset : Type) where
  asset : Asset
  source : Holder
  destination : Holder
  amount : ℕ
  deriving DecidableEq, Repr

/-- Positions may be negative; only their changes are of interest. -/
abbrev Holdings (Holder Asset : Type) := Holder → Asset → ℤ

def Movement.credit (movement : Movement Holder Asset) (holder : Holder) (asset : Asset) :
    ℕ :=
  if movement.asset = asset ∧ movement.destination = holder then movement.amount else 0

def Movement.debit (movement : Movement Holder Asset) (holder : Holder) (asset : Asset) :
    ℕ :=
  if movement.asset = asset ∧ movement.source = holder then movement.amount else 0

def move (holdings : Holdings Holder Asset) (movement : Movement Holder Asset) :
    Holdings Holder Asset := fun holder asset =>
  holdings holder asset + movement.credit holder asset - movement.debit holder asset

def execute (movements : List (Movement Holder Asset)) (holdings : Holdings Holder Asset) :
    Holdings Holder Asset :=
  movements.foldl move holdings

def received (movements : List (Movement Holder Asset)) (holder : Holder) (asset : Asset) :
    ℕ :=
  (movements.map fun movement => movement.credit holder asset).sum

def drawn (movements : List (Movement Holder Asset)) (holder : Holder) (asset : Asset) : ℕ :=
  (movements.map fun movement => movement.debit holder asset).sum

end Relayer.Ledger
