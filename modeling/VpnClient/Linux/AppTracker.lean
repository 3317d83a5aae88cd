import VpnClient.Library.Lines
import VpnClient.Library.Utf16

/-! The tracker of applications, which finds out the desktop file of a control group by the name of its scope. -/

namespace VpnClient.Linux

open Library

/-- UTF-16 code units. -/
abbrev QString := List UInt16

/-- A text of the source. -/
def text (s : String) : QString := Utf16.units s.toList

/-- The fields between the separators. -/
def split (sep : UInt16) (s : QString) : List QString := (Lines.frame sep [] s).1 ++ [(Lines.frame sep [] s).2]

/-- The last field. -/
def fileName (path : QString) : QString := (Lines.frame 47 [] path).2

def lastIndexIn (pattern s : QString) : Option ℕ :=
  (List.range (s.length + 1)).reverse.find? fun i => pattern.isPrefixOf (s.drop i)

namespace LinuxUtils

def desktopFileId (path : QString) : QString :=
  if 47 ∉ path then path
  else
    let dirComponent := text "/applications/"
    let index :=
      match lastIndexIn dirComponent path with
      | some index => index + dirComponent.length
      | none => (lastIndexIn [47] path).getD 0 + 1
    (path.drop index).map fun c => if c = 47 then 45 else c

end LinuxUtils

namespace AppTracker

def hexValue (c : UInt16) : Option ℕ :=
  let n := c.toNat
  if 48 ≤ n ∧ n ≤ 57 then some (n - 48)
  else if 65 ≤ n ∧ n ≤ 70 then some (n - 55)
  else if 97 ≤ n ∧ n ≤ 102 then some (n - 87)
  else none

/-- The number of an escape sequence that the text starts with: a backslash, an x and two digits. -/
def escapeAt : QString → Option UInt16
  | 92 :: 120 :: high :: low :: _ =>
    (hexValue high).bind fun high => (hexValue low).map fun low => UInt16.ofNat (16 * high + low)
  | _ => none

/-- The position and the number of the first escape sequence. -/
def firstEscape : QString → Option (ℕ × UInt16)
  | [] => none
  | c :: rest =>
    match escapeAt (c :: rest) with
    | some code => some (0, code)
    | none => (firstEscape rest).map fun found => (found.1 + 1, found.2)

lemma four_le_of_escapeAt {s : QString} {code : UInt16} (h : escapeAt s = some code) : 4 ≤ s.length := by
  rw [escapeAt.eq_def] at h
  split at h
  · simp
  · cases h

lemma add_four_le_of_firstEscape {s : QString} {found : ℕ × UInt16} (h : firstEscape s = some found) :
    found.1 + 4 ≤ s.length := by
  induction s generalizing found with
  | nil => cases h
  | cons c rest ih =>
    rw [firstEscape] at h
    split at h
    · next code hc =>
      obtain rfl := Option.some.inj h
      have hl := four_le_of_escapeAt hc
      omega
    · obtain ⟨f, hf, rfl⟩ := Option.map_eq_some_iff.mp h
      have hl := ih hf
      rw [List.length_cons]
      omega

/-- The loop, which searches for the next escape sequence from `offset` on. -/
def decodeFrom (result : QString) (offset : ℕ) : QString :=
  if offset < result.length then
    match hf : firstEscape (result.drop offset) with
    | none => result
    | some found =>
      let start := offset + found.1
      if found.2 ≠ 0 then decodeFrom (result.take start ++ found.2 :: result.drop (start + 4)) (start + 1)
      else decodeFrom result (start + 4)
  else result
termination_by result.length - offset
decreasing_by
  all_goals
    have hl := add_four_le_of_firstEscape hf
    simp only [List.length_drop, List.length_append, List.length_take, List.length_cons] at hl ⊢
    omega

def decodeUnicodeEscape (str : QString) : QString := decodeFrom str 0

/-- Whether the text starts with a dash or a dot and the digits of an identifier, in groups of 8, 4, 4, 4 and 12. -/
def startsWithUuid (s : QString) : Bool :=
  let hex (s : QString) (n : ℕ) := (s.take n).length = n ∧ (s.take n).all fun c => (hexValue c).isSome
  (s.head? = some 45 ∨ s.head? = some 46) ∧ hex (s.drop 1) 8 ∧ s[9]? = some 45 ∧ hex (s.drop 10) 4 ∧
    s[14]? = some 45 ∧ hex (s.drop 15) 4 ∧ s[19]? = some 45 ∧ hex (s.drop 20) 4 ∧ s[24]? = some 45 ∧
    hex (s.drop 25) 12

/-- The text without the identifiers in it, after `skip` code units that belong to one. -/
def removeUuid (skip : ℕ) : QString → QString
  | [] => []
  | c :: rest =>
    if skip ≠ 0 then removeUuid (skip - 1) rest
    else if startsWithUuid (c :: rest) then removeUuid 36 rest
    else c :: removeUuid 0 rest

def snapDesktopFileId (scope : QString) : QString :=
  let parts := (split 46 (removeUuid 0 scope)).dropLast
  let package := parts[1]?.getD []
  let app := parts[2]?.getD []
  let app := if app = text "hook" then parts[3]?.getD [] else app
  if package.isEmpty ∨ app.isEmpty then []
  else package ++ 95 :: app ++ text ".desktop"

/-- `sourcePath` is what systemd says for the unit of a scope. -/
def findDesktopFileId (sourcePath : QString → QString) (cgroup : QString) : QString :=
  let scopeName := fileName cgroup
  let raw := (split 45 scopeName)[2]?.getD []
  let gnomeLaunchdPrefix := text "gnome-launched-"
  let start := gnomeLaunchdPrefix.length
  let last := (lastIndexIn [45] scopeName).getD 0
  if ((text "app-gnome-").isPrefixOf scopeName ∨ (text "app-flatpak-").isPrefixOf scopeName) ∧ ¬ raw.isEmpty then
    decodeUnicodeEscape raw ++ text ".desktop"
  else if gnomeLaunchdPrefix.isPrefixOf scopeName ∧ last > start then (scopeName.drop start).take (last - start)
  else if (text "snap.").isPrefixOf scopeName then snapDesktopFileId scopeName
  else
    let source := sourcePath scopeName
    if ¬ source.isEmpty ∧ (text ".desktop").isSuffixOf source then LinuxUtils.desktopFileId source
    else []

end AppTracker

end VpnClient.Linux
