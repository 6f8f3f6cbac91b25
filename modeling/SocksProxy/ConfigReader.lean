import SocksProxy.ByteStrings
import SocksProxy.TextLines
import Mathlib.Data.Finmap

namespace SocksProxy

def npos : ℕ := 2 ^ 64 - 1

def findFirst (p : UInt8 → Bool) (s : Bytes) (pos : ℕ) : Option ℕ :=
  ((s.drop pos).findIdx? p).map fun i => pos + i

def findLast (p : UInt8 → Bool) (s : Bytes) : Option ℕ :=
  (s.reverse.findIdx? p).map fun i => s.length - 1 - i

def substr (s : Bytes) (pos count : ℕ) : Bytes := (s.drop pos).take count

structure Config where
  settings : Finmap (fun _ : Bytes => Bytes) := ∅
  users : Finmap (fun _ : Bytes => Bytes) := ∅

/-- An entry of a `std::map` that is found is erased before it is inserted anew. -/
def assign (m : Finmap (fun _ : Bytes => Bytes)) (key value : Bytes) : Finmap (fun _ : Bytes => Bytes) :=
  if key ∈ m then (m.erase key).insert key value else m.insert key value

theorem assign_eq (m : Finmap (fun _ : Bytes => Bytes)) (key value : Bytes) :
    assign m key value = m.insert key value := by
  unfold assign
  split_ifs with h
  · apply Finmap.ext_lookup
    intro k
    by_cases hk : k = key
    · subst hk
      rw [Finmap.lookup_insert, Finmap.lookup_insert]
    · rw [Finmap.lookup_insert_of_ne _ hk, Finmap.lookup_insert_of_ne _ hk, Finmap.lookup_erase_ne hk]
  · rfl

namespace ConfigReader

def whitespace : Bytes := [32, 9]

def fill : Bytes := [32]

def trim (whitespace str : Bytes) : Bytes :=
  match findFirst (fun c => !whitespace.contains c) str 0 with
  | none => []
  | some strBegin =>
    let strEnd := (findLast (fun c => !whitespace.contains c) str).getD npos
    let strRange := strEnd - strBegin + 1
    substr str strBegin strRange

def reduceLoop (fill whitespace : Bytes) : ℕ → Bytes → Option ℕ → Bytes
  | 0, result, _ => result
  | _ + 1, result, none => result
  | fuel + 1, result, some beginSpace =>
    let endSpace := (findFirst (fun c => !whitespace.contains c) result beginSpace).getD npos
    let range := endSpace - beginSpace
    let result := result.take beginSpace ++ fill ++ result.drop (beginSpace + range)
    let newStart := beginSpace + fill.length
    reduceLoop fill whitespace fuel result
      (findFirst (fun c => whitespace.contains c) result newStart)

structure Replacement where
  result : Bytes
  beginSpace : ℕ
  endSpace : Option ℕ

def reducePass (fill whitespace : Bytes) : Bytes × Option ℕ → Option (Replacement × (Bytes × Option ℕ))
  | (_, none) => none
  | (result, some beginSpace) =>
    let endSpace := findFirst (fun c => !whitespace.contains c) result beginSpace
    let range := endSpace.getD npos - beginSpace
    let replaced := result.take beginSpace ++ fill ++ result.drop (beginSpace + range)
    let newStart := beginSpace + fill.length
    some (⟨result, beginSpace, endSpace⟩,
      (replaced, findFirst (fun c => whitespace.contains c) replaced newStart))

/-- Each pass leaves at least one byte less behind `beginSpace`. -/
def reduceWith (fill whitespace str : Bytes) : Bytes :=
  let result := trim whitespace str
  reduceLoop fill whitespace (result.length + 1) result
    (findFirst (fun c => whitespace.contains c) result 0)

def reduce (str : Bytes) : Bytes := reduceWith fill whitespace str

def configData (line : Bytes) : Bytes := (line.takeWhile (· != 35)).filter (· != 13)

def delimiterPos (delimiter : UInt8) (data : Bytes) : UInt32 :=
  UInt32.ofNat ((findFirst (· == delimiter) data 0).getD npos)

/-- The reduced tag and value of a line; both are empty where `length` compares equal to `npos`. -/
def tagValue (delimiter : UInt8) (data : Bytes) : Bytes × Bytes :=
  let length := delimiterPos delimiter data
  if length.toNat ≠ npos then
    (reduce (substr data 0 length.toNat), reduce (data.drop (length + 1).toNat))
  else (reduce [], reduce [])

def loginTag : Bytes := [108, 111, 103, 105, 110]

/-- The lines that follow a line with an opening brace; what it leaves unread comes back. -/
def fillUsers (users : Finmap (fun _ : Bytes => Bytes)) :
    List Bytes → Finmap (fun _ : Bytes => Bytes) × List Bytes
  | [] => (users, [])
  | line1 :: rest =>
    let configData1 := configData line1
    if configData1 = [] then fillUsers users rest
    else if 125 ∈ configData1 then (users, rest)
    else
      let tagValue1 := tagValue 58 configData1
      if tagValue1.1 = [] ∨ tagValue1.2 = [] then fillUsers users rest
      else if tagValue1.1 ≠ loginTag then fillUsers users rest
      else match rest with
        | [] => (users, [])
        | line2 :: rest =>
          -- the closing brace is looked for before the comment is cut off
          if 125 ∈ line2 then (users, rest)
          else
            let configData2 := configData line2
            if configData2 = [] then fillUsers users rest
            else if 125 ∈ configData2 then (users, rest)
            else
              let tagValue2 := tagValue 58 configData2
              if tagValue2.1 = [] ∨ tagValue2.2 = [] then fillUsers users rest
              else fillUsers (assign users tagValue1.2 tagValue2.2) rest

def parseLines : ℕ → List Bytes → Config → Config
  | 0, _, c => c
  | _ + 1, [], c => c
  | fuel + 1, line :: rest, c =>
    let data := configData line
    if data = [] then parseLines fuel rest c
    else if 123 ∈ data then
      let (users, rest) := fillUsers c.users rest
      parseLines fuel rest { c with users := users }
    else
      let (tag, value) := tagValue 61 data
      if tag = [] ∨ value = [] then parseLines fuel rest c
      else parseLines fuel rest { c with settings := assign c.settings tag value }

def parseFile (file : Option Bytes) (c : Config) : Bool × Config :=
  match file with
  | none => (false, c)
  | some content =>
    let ls := TextLines.lines 10 content
    (true, parseLines ls.length ls c)

end ConfigReader

end SocksProxy
