import NumberedProse.Line

/-!
# Sequences in line-number order

A program and its compiled form are both arrays whose entries carry line numbers in increasing
order.  The two questions asked of them are where a number stands and which number comes next.
-/

namespace NumberedProse.Numbered

variable {α : Type}

/-- **Halves a window** of `size` entries, from `base` on, until one entry is left.  The upper half
is kept unless it begins with a number beyond the one that is looked for. -/
def narrow (number : α → LineNumber) (items : Array α) (n : LineNumber) (base size : Nat)
    (inside : base + size ≤ items.size) : Nat :=
  if h : 1 < size then
    let half := size / 2
    have : base + half < items.size := by omega
    if n < number items[base + half] then
      narrow number items n base (size - half) (by omega)
    else narrow number items n (base + half) (size - half) (by omega)
  else base
termination_by size

/-- **Where a number stands** in an array ordered by number. -/
def position? (number : α → LineNumber) (items : Array α) (n : LineNumber) : Option Nat :=
  let i := narrow number items n 0 items.size (by simp)
  items[i]?.bind fun item => if number item = n then some i else none

/-- **The number that follows** in the order, if `n` stands in it and is not the last. -/
def successor? (number : α → LineNumber) (items : Array α) (n : LineNumber) : Option LineNumber :=
  (position? number items n).bind fun i => items[i + 1]?.map number

end NumberedProse.Numbered
