import ResourceSymbols.Bytes

namespace ResourceSymbols.Path

def slash : UInt8 := 47

def isAbs (p : Bytes) : Bool := p.head? == some slash

def elements (p : Bytes) : List Bytes :=
  (Bytes.splitOn p slash).filter fun e => !e.isEmpty && e != [46]

def resolve (rooted : Bool) : List Bytes → List Bytes → List Bytes
  | acc, [] => acc
  | acc, e :: rest =>
    if e == [46, 46] then
      match acc with
      | top :: below => if top == [46, 46] then resolve rooted (e :: acc) rest else resolve rooted below rest
      | [] => if rooted then resolve rooted [] rest else resolve rooted [e] rest
    else resolve rooted (e :: acc) rest

def clean (p : Bytes) : Bytes :=
  let rooted := isAbs p
  let kept := (resolve rooted [] (elements p)).reverse
  let body := Bytes.join [slash] kept
  if rooted then slash :: body
  else if body.isEmpty then [46] else body

def join (parts : List Bytes) : Bytes :=
  let parts := parts.filter fun e => !e.isEmpty
  if parts.isEmpty then [] else clean (Bytes.join [slash] parts)

def split (p : Bytes) : Bytes × Bytes :=
  let back := p.reverse
  let fileRev := back.takeWhile (· != slash)
  (p.take (p.length - fileRev.length), fileRev.reverse)

def dir (p : Bytes) : Bytes := clean (split p).1

def base (p : Bytes) : Bytes :=
  if p.isEmpty then [46]
  else
    let trimmed := (p.reverse.dropWhile (· == slash)).reverse
    if trimmed.isEmpty then [slash]
    else (split trimmed).2

def ext (p : Bytes) : Bytes :=
  let file := (split p).2
  let beforeDot := file.reverse.takeWhile (· != 46)
  if beforeDot.length == file.length then [] else file.drop (file.length - beforeDot.length - 1)

def abs (cwd p : Bytes) : Bytes := if isAbs p then clean p else join [cwd, p]

end ResourceSymbols.Path
