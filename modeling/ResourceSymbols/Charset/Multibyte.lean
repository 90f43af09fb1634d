import ResourceSymbols.Unicode.Utf8
import ResourceSymbols.Charset.Jis
import ResourceSymbols.Charset.JisX0212
import ResourceSymbols.Charset.Gbk
import ResourceSymbols.Charset.Big5
import ResourceSymbols.Charset.EucKr

namespace ResourceSymbols.Charset

open Utf8 (replacement)

def cellsOf (rows : List String) : Array Char := (rows.map String.toList).flatten.toArray

def cellAt (cells : Array Char) (pointer : Nat) : Nat :=
  (cells[pointer]?.map Char.toNat).getD replacement

def jisCells : Array Char := cellsOf jisX0208

def jis0212Cells : Array Char := cellsOf jisX0212

def gbkCells : Array Char := cellsOf gbkRows

def big5Cells : Array Char := cellsOf big5Rows

def eucKrCells : Array Char := cellsOf eucKrRows

def jisCell (pointer : Nat) : Nat := cellAt jisCells pointer

def shiftJisSingle (b : Nat) : Option Nat :=
  if b < 0x80 then some b
  else if 0xA1 ≤ b && b < 0xE0 then some (b + 0xFF61 - 0xA1)
  else if (0x81 ≤ b && b < 0xA0) || (0xE0 ≤ b && b < 0xFD) then none
  else if b == 0x80 then some 0x80
  else some replacement

def shiftJisPair (lead t : Nat) : Nat × Bool :=
  let row := (if lead ≤ 0x9F then lead - 0x70 else lead - 0xB0) * 2 - 0x21
  if t < 0x40 || t == 0x7F then (replacement, false)
  else if t ≥ 0xFD then (replacement, true)
  else if t < 0x7F then (jisCell ((row - 1) * 94 + (t - 0x40)), true)
  else if t < 0x9F then (jisCell ((row - 1) * 94 + (t - 0x41)), true)
  else (jisCell (row * 94 + (t - 0x9F)), true)

def shiftJisCodes : Bytes → List Nat
  | [] => []
  | [c0] => [(shiftJisSingle c0.toNat).getD replacement]
  | c0 :: c1 :: after =>
    match shiftJisSingle c0.toNat with
    | some c => c :: shiftJisCodes (c1 :: after)
    | none =>
      match shiftJisPair c0.toNat c1.toNat with
      | (c, true) => c :: shiftJisCodes after
      | (c, false) => c :: shiftJisCodes (c1 :: after)

def isEucByte (b : Nat) : Bool := 0xA1 ≤ b && b ≤ 0xFE

def eucJpCodes : Bytes → List Nat
  | [] => []
  | [c0] => [if c0.toNat < 0x80 then c0.toNat else replacement]
  | [c0, c1] =>
    let b0 := c0.toNat
    let b1 := c1.toNat
    if b0 < 0x80 then b0 :: eucJpCodes [c1]
    else if b0 == 0x8E then
      if b1 < 0xA1 then replacement :: eucJpCodes [c1]
      else if b1 > 0xDF then replacement :: (if b1 == 0xFF then eucJpCodes [c1] else [])
      else [b1 + 0xFF61 - 0xA1]
    else if b0 == 0x8F then
      replacement :: (if 0xA1 ≤ b1 && b1 < 0xFE then [] else eucJpCodes [c1])
    else if isEucByte b0 then
      if isEucByte b1 then [jisCell ((b0 - 0xA1) * 94 + (b1 - 0xA1))]
      else replacement :: eucJpCodes [c1]
    else replacement :: eucJpCodes [c1]
  | c0 :: c1 :: c2 :: after =>
    let b0 := c0.toNat
    let b1 := c1.toNat
    let b2 := c2.toNat
    if b0 < 0x80 then b0 :: eucJpCodes (c1 :: c2 :: after)
    else if b0 == 0x8E then
      if b1 < 0xA1 then replacement :: eucJpCodes (c1 :: c2 :: after)
      else if b1 > 0xDF then
        replacement :: (if b1 == 0xFF then eucJpCodes (c1 :: c2 :: after) else eucJpCodes (c2 :: after))
      else (b1 + 0xFF61 - 0xA1) :: eucJpCodes (c2 :: after)
    else if b0 == 0x8F then
      if !isEucByte b1 then replacement :: eucJpCodes (c1 :: c2 :: after)
      else if !isEucByte b2 then replacement :: eucJpCodes (c2 :: after)
      else cellAt jis0212Cells ((b1 - 0xA1) * 94 + (b2 - 0xA1)) :: eucJpCodes after
    else if isEucByte b0 then
      if isEucByte b1 then jisCell ((b0 - 0xA1) * 94 + (b1 - 0xA1)) :: eucJpCodes (c2 :: after)
      else replacement :: eucJpCodes (c1 :: c2 :: after)
    else replacement :: eucJpCodes (c1 :: c2 :: after)

/-- What the bytes of ISO-2022-JP stand for, as escape sequences switch it. -/
inductive JisMode
  | ascii
  | katakana
  | jis0208
  | jis0212
deriving DecidableEq

def byteLess (b k : Nat) : Nat := (b + 256 - k) % 256

def iso2022JpCodes (mode : JisMode) : Bytes → List Nat
  | [] => []
  | c0 :: rest =>
    let b0 := c0.toNat
    if b0 ≥ 0x80 then replacement :: iso2022JpCodes mode rest
    else if b0 == 0x1B then
      match _h : rest with
      | c1 :: c2 :: after =>
        if c1 == 0x24 && (c2 == 0x40 || c2 == 0x42) then iso2022JpCodes .jis0208 after
        else if c1 == 0x28 && (c2 == 0x42 || c2 == 0x4A) then iso2022JpCodes .ascii after
        else if c1 == 0x28 && c2 == 0x49 then iso2022JpCodes .katakana after
        else if c1 == 0x24 && c2 == 0x28 then
          match _h2 : after with
          | c3 :: after2 =>
            if c3 == 0x44 then iso2022JpCodes .jis0212 after2
            else replacement :: iso2022JpCodes mode rest
          | [] => replacement :: iso2022JpCodes mode rest
        else replacement :: iso2022JpCodes mode rest
      | _ => replacement :: iso2022JpCodes mode rest
    else
      match mode with
      | .ascii => b0 :: iso2022JpCodes mode rest
      | .katakana =>
        (if b0 < 0x21 || b0 ≥ 0x60 then replacement else b0 + 0xFF61 - 0x21)
          :: iso2022JpCodes mode rest
      | _ =>
        if b0 == 0x0A then 0x0A :: iso2022JpCodes .ascii rest
        else
          match _h : rest with
          | [] => [replacement]
          | c1 :: after =>
            let i := byteLess b0 0x21 * 94 + byteLess c1.toNat 0x21
            (if mode == .jis0208 then jisCell i else cellAt jis0212Cells i)
              :: iso2022JpCodes mode after
termination_by b => b.length
decreasing_by
  all_goals (subst_vars; simp only [List.length_cons]; omega)

def gb18030Range (p : Nat) : Nat :=
  match (gb18030Ranges.filter fun r => r.1 ≤ p).getLast? with
  | some (start, c) => c + (p - start)
  | none => replacement

def gbkCodes (fourByte : Bool) : Bytes → List Nat
  | [] => []
  | c0 :: rest =>
    let b0 := c0.toNat
    if b0 < 0x80 then b0 :: gbkCodes fourByte rest
    else if b0 == 0x80 then 0x20AC :: gbkCodes fourByte rest
    else if b0 == 0xFF then replacement :: gbkCodes fourByte rest
    else
      match _h : rest with
      | [] => [replacement]
      | c1 :: after =>
        let b1 := c1.toNat
        if (0x40 ≤ b1 && b1 < 0x7F) || (0x80 ≤ b1 && b1 < 0xFF) then
          cellAt gbkCells ((b0 - 0x81) * 190 + (if b1 < 0x7F then b1 - 0x40 else b1 - 0x41))
            :: gbkCodes fourByte after
        else if fourByte && 0x30 ≤ b1 && b1 < 0x40 then
          match _h2 : after with
          | c2 :: c3 :: after2 =>
            let b2 := c2.toNat
            let b3 := c3.toNat
            if b2 < 0x81 || b2 ≥ 0xFF || b3 < 0x30 || b3 ≥ 0x3A then
              replacement :: gbkCodes fourByte rest
            else
              let p := (((b0 - 0x81) * 10 + (b1 - 0x30)) * 126 + (b2 - 0x81)) * 10 + (b3 - 0x30)
              if p < 39420 then gb18030Range p :: gbkCodes fourByte after2
              else if 189000 ≤ p && p < 189000 + 0x100000 then
                (p - 189000 + 0x10000) :: gbkCodes fourByte after2
              else replacement :: gbkCodes fourByte rest
          | _ => replacement :: gbkCodes fourByte rest
        else replacement :: gbkCodes fourByte rest
termination_by b => b.length
decreasing_by
  all_goals (subst_vars; simp only [List.length_cons]; omega)

def hzCodes (gb : Bool) : Bytes → List Nat
  | [] => []
  | c0 :: rest =>
    let b0 := c0.toNat
    if b0 ≥ 0x80 then replacement :: hzCodes gb rest
    else if b0 == 0x7E then
      match _h : rest with
      | [] => [replacement]
      | c1 :: after =>
        if c1 == 0x7B then hzCodes true after
        else if c1 == 0x7D then hzCodes false after
        else if c1 == 0x7E then 0x7E :: hzCodes gb after
        else if c1 == 0x0A then hzCodes gb after
        else replacement :: hzCodes gb after
    else if !gb then b0 :: hzCodes gb rest
    else
      match _h : rest with
      | [] => [replacement]
      | c1 :: after =>
        let b1 := c1.toNat
        let c := if b0 < 0x21 || 0x7E ≤ b0 || b1 < 0x21 || 0x7F ≤ b1 then replacement
          else cellAt gbkCells ((b0 - 1) * 190 + (b1 + 0x3F))
        if c != replacement then c :: hzCodes gb after
        else if b1 > 0x80 then replacement :: hzCodes gb rest
        else replacement :: hzCodes gb after
termination_by b => b.length
decreasing_by
  all_goals (subst_vars; simp only [List.length_cons]; omega)

def big5Pair (pointer : Nat) : Option (List Nat) :=
  if pointer == 1133 then some [0xCA, 0x304]
  else if pointer == 1135 then some [0xCA, 0x30C]
  else if pointer == 1164 then some [0xEA, 0x304]
  else if pointer == 1166 then some [0xEA, 0x30C]
  else none

def big5Codes : Bytes → List Nat
  | [] => []
  | c0 :: rest =>
    let b0 := c0.toNat
    if b0 < 0x80 then b0 :: big5Codes rest
    else if b0 == 0x80 || b0 == 0xFF then replacement :: big5Codes rest
    else
      match _h : rest with
      | [] => [replacement]
      | c1 :: after =>
        let b1 := c1.toNat
        if b1 < 0x40 then replacement :: big5Codes rest
        else if (0x7F ≤ b1 && b1 < 0xA1) || b1 == 0xFF then replacement :: big5Codes after
        else
          let i := (b0 - 0x81) * 157 + (if b1 < 0x7F then b1 - 0x40 else b1 - 0x62)
          (big5Pair i).getD [cellAt big5Cells i] ++ big5Codes after
termination_by b => b.length
decreasing_by
  all_goals (subst_vars; simp only [List.length_cons]; omega)

def eucKrCodes : Bytes → List Nat
  | [] => []
  | c0 :: rest =>
    let b0 := c0.toNat
    if b0 < 0x80 then b0 :: eucKrCodes rest
    else if b0 == 0x80 || b0 == 0xFF then replacement :: eucKrCodes rest
    else
      match _h : rest with
      | [] => [replacement]
      | c1 :: after =>
        let b1 := c1.toNat
        let valid := if b0 < 0xC7 then
            (0x41 ≤ b1 && b1 < 0x5B) || (0x61 ≤ b1 && b1 < 0x7B) || (0x81 ≤ b1 && b1 < 0xFF)
          else 0xA1 ≤ b1 && b1 < 0xFF
        let c := if valid then cellAt eucKrCells ((b0 - 0x81) * 190 + (b1 - 0x41)) else replacement
        if c != replacement then c :: eucKrCodes after
        else if b1 < 0x80 then replacement :: eucKrCodes rest
        else replacement :: eucKrCodes after
termination_by b => b.length
decreasing_by
  all_goals (subst_vars; simp only [List.length_cons]; omega)

end ResourceSymbols.Charset
