import ResourceSymbols.Bytes

namespace ResourceSymbols.Natural

def isDigit (b : UInt8) : Bool := 48 ≤ b && b ≤ 57

def skipCommon : Bytes → Bytes → Bytes × Bytes
  | x :: xs, y :: ys =>
    if isDigit x || isDigit y || x != y then (x :: xs, y :: ys) else skipCommon xs ys
  | xs, ys => (xs, ys)

def runValue (ds : Bytes) : Nat := ds.foldl (fun acc d => acc * 10 + (d.toNat - 48)) 0

def runBefore (da db : Bytes) : Bool :=
  let va := runValue da
  let vb := runValue db
  if va < Nat.pow 2 64 && vb < Nat.pow 2 64 then
    (va + Nat.pow 2 64 - vb) % Nat.pow 2 64 ≥ Nat.pow 2 63
  else
    decide (va < vb)

theorem skipCommon_length_le (a b : Bytes) : (skipCommon a b).1.length ≤ a.length := by
  induction a generalizing b with
  | nil => cases b <;> simp [skipCommon]
  | cons x xs ih =>
    cases b with
    | nil => simp [skipCommon]
    | cons y ys =>
      simp only [skipCommon]
      split
      · simp
      · have := ih ys; simp; omega

/-- Natural order: whether `a` comes strictly before `b`. -/
def less (a b : Bytes) : Bool :=
  match _h : skipCommon a b with
  | (a', b') =>
    if a'.isEmpty then !b'.isEmpty
    else if _hd : a'.takeWhile isDigit = [] ∨ b'.takeWhile isDigit = [] then Bytes.lt a' b'
    else
      let na := (a'.takeWhile isDigit).length
      let nb := (b'.takeWhile isDigit).length
      let da := a'.takeWhile isDigit
      let db := b'.takeWhile isDigit
      if runValue da != runValue db then runBefore da db
      else if na != a'.length && nb != b'.length then less (a'.drop na) (b'.drop nb)
      else Bytes.lt a' b'
termination_by a.length
decreasing_by
  have h1 := skipCommon_length_le a b
  rw [_h] at h1
  dsimp only at h1
  have h3 := (List.takeWhile_sublist (l := a') isDigit).length_le
  have h2 : 0 < (a'.takeWhile isDigit).length :=
    List.length_pos_iff.mpr fun e => _hd (Or.inl e)
  simp only [List.length_drop]
  omega

end ResourceSymbols.Natural
