import VpnClient.Library.SortedMap
import VpnClient.Library.TextTables

/-! The configurations for the split tunnel driver: the apps and the processes, each with the path of its image. -/

namespace VpnClient.Windows.WindowsSplitTunnel

open Library Library.TextTables Library.LittleEndian

/-- A text as UTF-16 code units. -/
abbrev QString := List UInt16

def wideBytes (text : QString) : Bytes := text.flatMap fun unit => bytes 2 unit.toNat

def fromWide : Bytes → QString
  | low :: high :: rest => UInt16.ofNat (value [low, high]) :: fromWide rest
  | _ => []

/-- The offset and the length of a name, before the padding. -/
def configurationEntry (name : QString) (stringOffset : ℕ) : Bytes :=
  bytes 8 stringOffset ++ bytes 2 (2 * name.length)

structure ProcessInfo where
  ProcessId : UInt32
  ParentProcessId : UInt32
  DevicePath : QString
  deriving DecidableEq, Repr

def discoveryEntry (process : ProcessInfo) (currentStringOffset : ℕ) : Bytes :=
  bytes 8 process.ProcessId.toNat ++ bytes 8 process.ParentProcessId.toNat ++
    if process.DevicePath = [] then bytes 8 0 ++ bytes 2 0
    else bytes 8 currentStringOffset ++ bytes 2 (2 * process.DevicePath.length)

def configuration : Format QString Unit where
  size := 16
  record := configurationEntry
  text := wideBytes
  item _ := ()
  offset entry := value (entry.take 8)
  length entry := value ((entry.drop 8).take 2)
  length_record name stringOffset := by simp [configurationEntry]

def discovery : Format ProcessInfo (ℕ × ℕ) where
  size := 32
  record := discoveryEntry
  text process := wideBytes process.DevicePath
  item entry := (value (entry.take 8), value ((entry.drop 8).take 8))
  offset entry := value ((entry.drop 16).take 8)
  length entry := value ((entry.drop 24).take 2)
  length_record process stringOffset := by
    rw [discoveryEntry]
    split_ifs <;> simp

section Blobs

variable {A B : Type} (f : Format A B)

def headerSize : ℕ := 16

/-- The buffer for the items, whose texts take `stringSize` bytes: the entries and the texts are written, and then the
header with the number of entries and the size. -/
def generate (items : List A) (stringSize : ℕ) : Option Bytes :=
  let bufferSize := headerSize + f.size * items.length + stringSize
  (f.fill items ⟨zeros bufferSize, headerSize, headerSize + f.size * items.length, 0⟩).bind fun c =>
    write 0 (bytes 8 items.length ++ bytes 8 bufferSize) c.buffer

def numEntries (blob : Bytes) : ℕ := value (blob.take 8)

def totalLength (blob : Bytes) : ℕ := value ((blob.drop 8).take 8)

/-- What the driver reads, if the header and the entries are there. -/
def decode (blob : Bytes) : Option (List (B × QString)) :=
  if headerSize ≤ blob.length ∧ headerSize + f.size * numEntries blob ≤ blob.length then
    let entries := blob.drop headerSize
    (f.decode (entries.drop (f.size * numEntries blob)) (numEntries blob) entries).map fun decoded =>
      decoded.map fun entry => (entry.1, fromWide entry.2)
  else none

end Blobs

section Paths

/-- What is written for a drive into a buffer of some size, with the number that is returned. -/
abbrev QueryDosDevice := QString → ℕ → ℕ × QString

def convertPath (queryDosDevice : QueryDosDevice) (path : QString) : QString :=
  match path.splitOn 0x2F with
  | [] => []
  | driveLetter :: parts =>
    if 0x3A ∉ driveLetter ∨ parts.length = 0 then []
    else
      let first := queryDosDevice driveLetter 1024
      -- 122 is ERROR_INSUFFICIENT_BUFFER
      let answer := if first.1 = 122 then queryDosDevice driveLetter 2048 else first
      if answer.1 = 0 then [] else [0x5C].intercalate (answer.2 :: parts)

/-- Paths whose converted names are all in memory: each takes 24 bytes and two for a unit. -/
structure AppPaths (queryDosDevice : QueryDosDevice) where
  paths : List QString
  inMemory : (paths.map fun path => 24 + 2 * (convertPath queryDosDevice path).length).sum < 2 ^ 63

variable {queryDosDevice : QueryDosDevice}

def AppPaths.dosPaths (appPaths : AppPaths queryDosDevice) : List QString :=
  appPaths.paths.map (convertPath queryDosDevice)

def generateAppConfiguration (appPaths : AppPaths queryDosDevice) : Option Bytes :=
  let cummulatedStringSize := (appPaths.dosPaths.map fun path => 2 * path.length).sum
  generate configuration appPaths.dosPaths cummulatedStringSize

end Paths

section Processes

/-- A process of a snapshot: whether its handle is valid, and its image if that is found. -/
structure Process where
  opened : Bool
  th32ProcessID : UInt32
  th32ParentProcessID : UInt32
  imagepath : Option QString
  deriving DecidableEq, Repr

def getProcessInfo (process : Process) : ProcessInfo :=
  ⟨process.th32ProcessID, process.th32ParentProcessID, process.imagepath.getD []⟩

/-- The processes of a snapshot, which are in memory: each takes 48 bytes and two for a unit of its path. -/
structure Snapshot where
  first : Process
  next : List Process
  inMemory : ((first :: next).map fun process => 48 + 2 * (getProcessInfo process).DevicePath.length).sum < 2 ^ 63

def addProcess (processes : SortedMap ℕ ProcessInfo) (process : Process) : SortedMap ℕ ProcessInfo :=
  if !process.opened then processes
  else
    let info := getProcessInfo process
    processes.insert info.ProcessId.toNat info

def Snapshot.processes (snapshot : Snapshot) : SortedMap ℕ ProcessInfo :=
  (snapshot.first :: snapshot.next).foldl addProcess SortedMap.empty

/-- The buffer is empty without a snapshot and without a process. -/
def generateProcessBlob (snapshot : Option Snapshot) : Option Bytes :=
  match snapshot with
  | none => some []
  | some snapshot =>
    let processList := snapshot.processes.entries.map Prod.snd
    if processList = [] then some []
    else
      let totalStringSize := (processList.map fun process => process.DevicePath.length * 2).sum
      generate discovery processList totalStringSize

end Processes

section Records

lemma value_bytes_of_lt {width n : ℕ} (h : n < 256 ^ width) : value (bytes width n) = n := by
  rw [value_bytes, Nat.mod_eq_of_lt h]

@[simp] lemma length_wideBytes (text : QString) : (wideBytes text).length = 2 * text.length := by
  induction text with
  | nil => rfl
  | cons unit text ih =>
    rw [wideBytes, List.flatMap_cons, List.length_append, length_bytes, ← wideBytes, ih, List.length_cons]
    omega

lemma fromWide_wideBytes (text : QString) : fromWide (wideBytes text) = text := by
  induction text with
  | nil => rfl
  | cons unit text ih =>
    have hu : UInt16.ofNat (value (bytes 2 unit.toNat)) = unit := by
      rw [value_bytes_of_lt unit.toNat_lt, UInt16.ofNat_toNat]
    exact congrArg₂ List.cons hu ih

lemma wideBytes_eq_nil {text : QString} : wideBytes text = [] ↔ text = [] := by
  rw [← List.length_eq_zero_iff, length_wideBytes, ← List.length_eq_zero_iff]
  omega

lemma take_bytes (width n : ℕ) (more : Bytes) : (bytes width n ++ more).take width = bytes width n :=
  List.take_left' (length_bytes width n)

lemma drop_bytes (width n : ℕ) (more : Bytes) : (bytes width n ++ more).drop width = more :=
  List.drop_left' (length_bytes width n)

lemma reads_configuration {name : QString} {o : ℕ} (hn : name.length < 32768) (ho : o < 2 ^ 64) :
    configuration.Reads (fun _ => ()) name o := by
  have hoff (more : Bytes) : configuration.offset (configurationEntry name o ++ more) = o := by
    change value ((configurationEntry name o ++ more).take 8) = o
    rw [configurationEntry, List.append_assoc, take_bytes, value_bytes_of_lt (by omega)]
  constructor
  case item => exact fun _ => rfl
  case length =>
    intro more
    change value (((configurationEntry name o ++ more).drop 8).take 2) = (wideBytes name).length
    rw [configurationEntry, List.append_assoc, drop_bytes, take_bytes, value_bytes_of_lt (by omega), length_wideBytes]
  case offset_le => exact fun more => (hoff more).le
  case offset => exact fun _ => hoff

lemma discoveryEntry_eq (process : ProcessInfo) (o : ℕ) : discoveryEntry process o =
    bytes 8 process.ProcessId.toNat ++ (bytes 8 process.ParentProcessId.toNat ++
      (bytes 8 (if process.DevicePath = [] then 0 else o) ++ bytes 2 (2 * process.DevicePath.length))) := by
  rw [discoveryEntry, List.append_assoc]
  split_ifs with h
  · rw [h]
    rfl
  · rfl

lemma reads_discovery {process : ProcessInfo} {o : ℕ} (hn : process.DevicePath.length < 32768) (ho : o < 2 ^ 64) :
    discovery.Reads (fun process => (process.ProcessId.toNat, process.ParentProcessId.toNat)) process o := by
  have hid (id : UInt32) : id.toNat < 256 ^ 8 := id.toNat_lt.trans (by norm_num)
  have hoff (more : Bytes) : discovery.offset (discoveryEntry process o ++ more) =
      if process.DevicePath = [] then 0 else o := by
    change value (((discoveryEntry process o ++ more).drop 16).take 8) = _
    rw [discoveryEntry_eq]
    simp only [List.append_assoc]
    rw [← List.append_assoc, List.drop_left' (by simp), take_bytes, value_bytes_of_lt (by split_ifs <;> omega)]
  constructor
  case item =>
    intro more
    change (value ((discoveryEntry process o ++ more).take 8),
      value (((discoveryEntry process o ++ more).drop 8).take 8)) = _
    rw [discoveryEntry_eq]
    simp only [List.append_assoc]
    rw [take_bytes, drop_bytes, take_bytes, value_bytes_of_lt (hid _), value_bytes_of_lt (hid _)]
  case length =>
    intro more
    change value (((discoveryEntry process o ++ more).drop 24).take 2) = (wideBytes process.DevicePath).length
    rw [discoveryEntry_eq]
    simp only [List.append_assoc]
    rw [← List.append_assoc, ← List.append_assoc, List.drop_left' (by simp), take_bytes, value_bytes_of_lt (by omega),
      length_wideBytes]
  case offset_le =>
    intro more
    change discovery.offset (discoveryEntry process o ++ more) ≤ o
    rw [hoff]
    split_ifs <;> omega
  case offset =>
    intro he more
    change discovery.offset (discoveryEntry process o ++ more) = o
    rw [hoff, if_neg fun hp => he (wideBytes_eq_nil.mpr hp)]

end Records

/-- The buffer has the size that it says, and the driver reads the items from it. -/
structure Decodes {A B : Type} (f : Format A B) (blob : Bytes) (items : List (B × QString)) : Prop where
  totalLength : totalLength blob = blob.length
  items : decode f blob = some items

section Generate

variable {A B : Type} {f : Format A B} {item : A → B} {items : List A} {stringSize n size : ℕ}

lemma generate_eq (hs : stringSize = (f.texts items).length) : generate f items stringSize =
    some (bytes 8 items.length ++ bytes 8 (headerSize + f.size * items.length + stringSize) ++
      (f.table items 0 ++ f.texts items)) := by
  obtain ⟨c, hc, hb⟩ := f.exists_fill items (zeros headerSize) []
  have hz : zeros (headerSize + f.size * items.length + stringSize) =
      zeros headerSize ++ zeros (f.size * items.length) ++ [] ++ zeros (f.texts items).length := by
    rw [zeros_add, zeros_add, hs, List.append_nil]
  rw [length_zeros, List.length_nil, add_zero] at hc
  rw [generate, hz, hc, Option.bind_some, hb, List.append_assoc]
  apply write_front
  simp [headerSize]

lemma totalLength_header (hs : size < 2 ^ 64) (more : Bytes) : totalLength (bytes 8 n ++ bytes 8 size ++ more) = size := by
  rw [totalLength, List.append_assoc, drop_bytes, take_bytes, value_bytes_of_lt (by omega)]

lemma numEntries_header (hn : n < 2 ^ 64) (more : Bytes) : numEntries (bytes 8 n ++ bytes 8 size ++ more) = n := by
  rw [numEntries, List.append_assoc, take_bytes, value_bytes_of_lt (by omega)]

lemma drop_header (more : Bytes) : (bytes 8 n ++ bytes 8 size ++ more).drop headerSize = more :=
  List.drop_left' (by simp [headerSize])

theorem exists_generate (hs : stringSize = (f.texts items).length)
    (hb : headerSize + f.size * items.length + stringSize < 2 ^ 64) (hn : items.length < 2 ^ 64)
    (hr : ∀ a ∈ items, ∀ o < 2 ^ 64, f.Reads item a o) :
    ∃ blob, generate f items stringSize = some blob ∧
      Decodes f blob (items.map fun a => (item a, fromWide (f.text a))) := by
  refine ⟨_, generate_eq hs, ?_, ?_⟩
  · rw [totalLength_header hb, hs]
    simp only [List.length_append, length_bytes, Format.length_table, headerSize]
    omega
  · have ht : (f.table items 0 ++ f.texts items).drop (f.size * items.length) = f.texts items :=
      List.drop_left' (Format.length_table items 0)
    have hd : f.decode (f.texts items) items.length (f.table items 0 ++ f.texts items) =
        some (items.map fun a => (item a, f.text a)) :=
      f.decode_table _ [] _ rfl fun a ha o ho => hr a ha o (by omega)
    rw [decode, numEntries_header hn, drop_header, if_pos]
    · dsimp only
      rw [ht, hd, Option.map_some, List.map_map]
      rfl
    · simp only [List.length_append, length_bytes, Format.length_table, headerSize]
      omega

end Generate

section Memory

variable {A : Type}

lemma sum_map_add (k : ℕ) (items : List A) (length : A → ℕ) :
    (items.map fun a => k + 2 * length a).sum = k * items.length + (items.map fun a => 2 * length a).sum := by
  induction items with
  | nil => rfl
  | cons a items ih =>
    simp only [List.map_cons, List.sum_cons, ih, List.length_cons, Nat.mul_succ]
    omega

lemma length_texts_eq_sum (text : A → QString) (items : List A) :
    (items.flatMap fun a => wideBytes (text a)).length = (items.map fun a => 2 * (text a).length).sum := by
  rw [List.length_flatMap]
  simp only [length_wideBytes]

end Memory

lemma exists_generateAppConfiguration {queryDosDevice : QueryDosDevice} (appPaths : AppPaths queryDosDevice)
    (h : ∀ path ∈ appPaths.paths, (convertPath queryDosDevice path).length < 32768) :
    ∃ blob, generateAppConfiguration appPaths = some blob ∧
      Decodes configuration blob (appPaths.paths.map fun path => ((), convertPath queryDosDevice path)) := by
  have hm := appPaths.inMemory
  have hs : (appPaths.dosPaths.map fun path => 2 * path.length).sum = (configuration.texts appPaths.dosPaths).length :=
    (length_texts_eq_sum id appPaths.dosPaths).symm
  have hd : (appPaths.dosPaths.map fun path => 2 * path.length).sum =
      (appPaths.paths.map fun path => 2 * (convertPath queryDosDevice path).length).sum := by
    rw [AppPaths.dosPaths, List.map_map]
    rfl
  have hl : appPaths.dosPaths.length = appPaths.paths.length := List.length_map ..
  rw [sum_map_add, ← hd, ← hl] at hm
  obtain ⟨blob, hg, hb⟩ := exists_generate hs (by change 16 + 16 * _ + _ < _; omega) (by omega) fun name hn o ho => by
    obtain ⟨path, hp, rfl⟩ := List.mem_map.mp hn
    exact reads_configuration (h path hp) ho
  refine ⟨blob, hg, ?_⟩
  rw [AppPaths.dosPaths, List.map_map] at hb
  simpa only [Function.comp_def, configuration, fromWide_wideBytes] using hb

def Snapshot.infos (snapshot : Snapshot) : List ProcessInfo :=
  ((snapshot.first :: snapshot.next).filter (·.opened)).map getProcessInfo

lemma perm_insert {m : SortedMap ℕ ProcessInfo} {k : ℕ} (v : ProcessInfo) (h : k ∉ m.keys) :
    ((m.insert k v).entries.map Prod.snd).Perm (v :: m.entries.map Prod.snd) := by
  have hn : ∀ e ∈ m.entries, e.1 ≠ k := fun e he hk => h (List.mem_map.mpr ⟨e, he, hk⟩)
  obtain ⟨before, after, hs, hi⟩ := SortedMap.exists_insertEntry hn
  have hi : (m.insert k v).entries = before ++ (k, v) :: after := hi
  rw [hi, hs, List.map_append, List.map_append, List.map_cons]
  exact List.perm_middle

lemma perm_foldl {processes : List Process} {m : SortedMap ℕ ProcessInfo}
    (hd : ((processes.filter (·.opened)).map fun process => process.th32ProcessID.toNat).Nodup)
    (hm : ∀ process ∈ processes.filter (·.opened), process.th32ProcessID.toNat ∉ m.keys) :
    ((processes.foldl addProcess m).entries.map Prod.snd).Perm
      (m.entries.map Prod.snd ++ (processes.filter (·.opened)).map getProcessInfo) := by
  induction processes generalizing m with
  | nil => simp
  | cons process processes ih =>
    rw [List.foldl_cons]
    cases ho : process.opened with
    | false =>
      rw [List.filter_cons_of_neg (by simp [ho])] at hd hm ⊢
      have ha : addProcess m process = m := by rw [addProcess, ho]; rfl
      rw [ha]
      exact ih hd hm
    | true =>
      rw [List.filter_cons_of_pos (by simp [ho])] at hd hm ⊢
      rw [List.map_cons, List.nodup_cons] at hd
      have ha : addProcess m process = m.insert process.th32ProcessID.toNat (getProcessInfo process) := by
        rw [addProcess, ho]
        rfl
      rw [ha, List.map_cons]
      refine (ih hd.2 fun other hm' hk => ?_).trans ?_
      · rcases SortedMap.mem_keys_insert.mp hk with hk | hk
        · exact hd.1 (List.mem_map.mpr ⟨other, hm', hk⟩)
        · exact hm other (List.mem_cons_of_mem _ hm') hk
      · exact ((perm_insert _ (hm process List.mem_cons_self)).append_right _).trans List.perm_middle.symm

variable {snapshot : Snapshot}

lemma perm_processes (hd : (snapshot.infos.map (·.ProcessId)).Nodup) :
    (snapshot.processes.entries.map Prod.snd).Perm snapshot.infos := by
  refine perm_foldl ?_ fun process hp hk => ?_
  · rw [Snapshot.infos, List.map_map] at hd
    have hn := hd.map fun (a b : UInt32) (h : a.toNat = b.toNat) => UInt32.toNat_inj.mp h
    rw [List.map_map] at hn
    exact hn
  · cases hk

lemma sum_infos_lt : (snapshot.infos.map fun info => 48 + 2 * info.DevicePath.length).sum < 2 ^ 63 := by
  refine lt_of_le_of_lt ?_ snapshot.inMemory
  rw [Snapshot.infos, List.map_map]
  exact List.Sublist.sum_le_sum (List.filter_sublist.map _) fun _ _ => Nat.zero_le _

lemma exists_generateProcessBlob (hd : (snapshot.infos.map (·.ProcessId)).Nodup)
    (hn : ∀ info ∈ snapshot.infos, info.DevicePath.length < 32768) (hne : snapshot.infos ≠ []) :
    ∃ blob entries, generateProcessBlob (some snapshot) = some blob ∧ Decodes discovery blob entries ∧
      entries.Perm (snapshot.infos.map fun info =>
        ((info.ProcessId.toNat, info.ParentProcessId.toNat), info.DevicePath)) := by
  have hp := perm_processes hd
  have hm : (snapshot.infos.map fun info => 48 + 2 * info.DevicePath.length).sum < 2 ^ 63 := sum_infos_lt
  rw [← (hp.map _).sum_eq, sum_map_add] at hm
  rw [generateProcessBlob]
  dsimp only
  generalize snapshot.processes.entries.map Prod.snd = list at hp hm ⊢
  have hl : list ≠ [] := by
    rintro rfl
    exact hne (List.nil_perm.mp hp)
  rw [if_neg hl]
  have hs : (list.map fun process => process.DevicePath.length * 2).sum = (discovery.texts list).length := by
    simp only [mul_comm _ 2]
    exact (length_texts_eq_sum (·.DevicePath) list).symm
  have hk : (list.map fun process => process.DevicePath.length * 2).sum =
      (list.map fun process => 2 * process.DevicePath.length).sum := by
    simp only [mul_comm _ 2]
  obtain ⟨blob, hg, hb⟩ := exists_generate hs (by rw [hk]; change 16 + 32 * _ + _ < _; omega) (by omega)
    fun info hi o ho => reads_discovery (hn info (hp.mem_iff.mp hi)) ho
  refine ⟨blob, _, hg, ?_, hp.map _⟩
  simpa only [discovery, fromWide_wideBytes] using hb

/-- The driver reads the converted paths, and each process once: without a process the buffer is empty. -/
theorem blobs_decode (queryDosDevice : QueryDosDevice) :
    (∀ appPaths : AppPaths queryDosDevice,
      (∀ path ∈ appPaths.paths, (convertPath queryDosDevice path).length < 32768) →
      ∃ blob, generateAppConfiguration appPaths = some blob ∧
        Decodes configuration blob (appPaths.paths.map fun path => ((), convertPath queryDosDevice path))) ∧
    ∀ snapshot : Snapshot, (snapshot.infos.map (·.ProcessId)).Nodup →
      (∀ info ∈ snapshot.infos, info.DevicePath.length < 32768) →
      ∃ blob, generateProcessBlob (some snapshot) = some blob ∧
        if snapshot.infos = [] then blob = []
        else ∃ entries, Decodes discovery blob entries ∧ entries.Perm (snapshot.infos.map fun info =>
          ((info.ProcessId.toNat, info.ParentProcessId.toNat), info.DevicePath)) := by
  refine ⟨exists_generateAppConfiguration, fun snapshot hd hn => ?_⟩
  by_cases he : snapshot.infos = []
  · refine ⟨[], ?_, by rw [if_pos he]⟩
    have hp := perm_processes hd
    rw [he] at hp
    rw [generateProcessBlob]
    exact if_pos hp.eq_nil
  · obtain ⟨blob, entries, hg, hb, hp⟩ := exists_generateProcessBlob hd hn he
    exact ⟨blob, hg, by rw [if_neg he]; exact ⟨entries, hb, hp⟩⟩

def oneDevice : QueryDosDevice := fun _ _ => (3, [0x5C, 0x44])

/-- The path `C:/a`. -/
def onePath : AppPaths oneDevice := ⟨[[0x43, 0x3A, 0x2F, 0x61]], by decide⟩

def twoProcesses : Snapshot := ⟨⟨true, 4, 0, none⟩, [⟨true, 2, 4, some [0x5C, 0x44]⟩], by decide⟩

theorem blobs_decode_two : (∃ blob, generateAppConfiguration onePath = some blob ∧
      Decodes configuration blob (onePath.paths.map fun path => ((), convertPath oneDevice path))) ∧
    ∃ blob, generateProcessBlob (some twoProcesses) = some blob ∧
      if twoProcesses.infos = [] then blob = []
      else ∃ entries, Decodes discovery blob entries ∧ entries.Perm (twoProcesses.infos.map fun info =>
        ((info.ProcessId.toNat, info.ParentProcessId.toNat), info.DevicePath)) :=
  ⟨(blobs_decode oneDevice).1 onePath (by decide), (blobs_decode oneDevice).2 twoProcesses (by decide) (by decide)⟩

/-- The handle of the one process fails the test of the code. `OpenProcess` fails with a null handle, which passes that
test, so that the list is empty by this guard alone. -/
def noProcess : Snapshot := ⟨⟨false, 4, 0, none⟩, [], by decide⟩

/-- Without a process the buffer has no header. -/
theorem not_decodes_empty : (noProcess.infos.map (·.ProcessId)).Nodup ∧
    generateProcessBlob (some noProcess) = some [] ∧
    ∀ entries, ¬ Decodes discovery [] entries := by
  refine ⟨by decide, by decide, fun entries h => ?_⟩
  have hn := h.items
  rw [decode, if_neg (by decide)] at hn
  cases hn

end VpnClient.Windows.WindowsSplitTunnel
