import Mathlib.Tactic

/-! The devices between which a proxy moves bytes: what can be read, what was written, and how
much of that is still to be sent. -/

namespace VpnClient.Socks5

def MAX_CONNECTION_BUFFER : ℕ := 16 * 1024

structure Device where
  isOpen : Bool := true
  readable : List UInt8 := []
  written : List UInt8 := []
  bytesToWrite : ℕ := 0
  errorString : String := ""
  deriving DecidableEq

namespace Device

def bytesAvailable (d : Device) : ℕ := d.readable.length

def read (d : Device) (maxSize : ℕ) : List UInt8 × Device :=
  (d.readable.take maxSize, { d with readable := d.readable.drop maxSize })

/-- A write to an open device is buffered; one to a closed device fails. -/
def write (d : Device) (data : List UInt8) : Bool × Device :=
  if d.isOpen then
    (true, { d with written := d.written ++ data, bytesToWrite := d.bytesToWrite + data.length })
  else (false, d)

def close (d : Device) : Device := { d with isOpen := false, readable := [], bytesToWrite := 0 }

/-- The arrival of bytes from the peer. -/
def receive (d : Device) (data : List UInt8) : Device :=
  if d.isOpen then { d with readable := d.readable ++ data } else d

/-- The report that `bytes` of the buffered bytes have been sent. -/
def sent (d : Device) (bytes : ℕ) : Device := { d with bytesToWrite := d.bytesToWrite - bytes }

end Device

/-- A packed struct: its size and what its fields are in the bytes of its memory. -/
class Packet (T : Type) where
  size : ℕ
  decode : List UInt8 → T

def readPacket (T : Type) [Packet T] (connection : Device) : Option (T × Device) :=
  if connection.bytesAvailable < Packet.size T then none
  else
    let (bytes, rest) := connection.read (Packet.size T)
    if bytes.length ≠ Packet.size T then none -- the transaction is rolled back
    else some (Packet.decode bytes, rest)

/-- The loop of `proxy`, cut off after `fuel` rounds. -/
def proxyLoop : ℕ → Device → Device → Device × Device
  | 0, source, target => (source, target)
  | fuel + 1, source, target =>
    let available := source.bytesAvailable
    if available = 0 then (source, target)
    else
      let capacity := MAX_CONNECTION_BUFFER - target.bytesToWrite
      if capacity = 0 then (source, target)
      else
        let (data, source) := source.read (min available capacity)
        if data.length = 0 then (source, target)
        else
          match target.write data with
          | (false, target) => (source, target)
          | (true, target) => proxyLoop fuel source target

def proxy (source target : Device) (watermark : ℕ) : Device × Device × ℕ :=
  let (source, target) := proxyLoop (source.bytesAvailable + 1) source target
  (source, target, max watermark target.bytesToWrite)

section

variable {T : Type} [Packet T] {d source target : Device} {bytes data : List UInt8} {n : ℕ}

lemma readPacket_none (h : d.readable.length < Packet.size T) : readPacket T d = none := if_pos h

lemma readPacket_append (hr : d.readable = bytes ++ data) (hb : bytes.length = Packet.size T) :
    readPacket T d = some (Packet.decode bytes, { d with readable := data }) := by
  simp [readPacket, Device.bytesAvailable, Device.read, hr, ← hb]

/-- How many bytes `proxy` moves. -/
def moved (source target : Device) : ℕ :=
  min source.bytesAvailable (MAX_CONNECTION_BUFFER - target.bytesToWrite)

/-- The devices after `proxy` between open devices. -/
def transfer (source target : Device) : Device × Device :=
  let n := moved source target
  ({ source with readable := source.readable.drop n },
    { target with
      written := target.written ++ source.readable.take n
      bytesToWrite := target.bytesToWrite + n })

lemma moved_transfer : moved (transfer source target).1 (transfer source target).2 = 0 := by
  simp only [moved, transfer, Device.bytesAvailable, List.length_drop]
  omega

lemma transfer_of_moved_zero (h : moved source target = 0) : transfer source target = (source, target) := by
  simp [transfer, h]

lemma proxyLoop_of_moved_zero (h : moved source target = 0) (fuel : ℕ) :
    proxyLoop fuel source target = (source, target) := by
  cases fuel with
  | zero => rfl
  | succ fuel =>
    rw [proxyLoop]
    dsimp only
    simp only [moved] at h
    split_ifs with ha hc
    · rfl
    · rfl
    · omega
    · omega

lemma proxyLoop_eq (ho : target.isOpen = true) {fuel : ℕ} (hf : 0 < fuel) :
    proxyLoop fuel source target = transfer source target := by
  cases fuel with
  | zero => omega
  | succ fuel =>
    by_cases hm : moved source target = 0
    · rw [proxyLoop_of_moved_zero hm, transfer_of_moved_zero hm]
    · have hm' := hm
      simp only [moved, Device.bytesAvailable] at hm'
      have ha : source.readable.length ≠ 0 := by omega
      have hc : MAX_CONNECTION_BUFFER - target.bytesToWrite ≠ 0 := by omega
      have hl : (source.readable.take (moved source target)).length = moved source target := by
        simp [moved, Device.bytesAvailable]
      have hw : target.write (source.readable.take (moved source target)) =
          (true, (transfer source target).2) := by
        simp [Device.write, ho, hl, transfer]
      rw [proxyLoop]
      simp only [Device.bytesAvailable, Device.read, ha, hc, if_false]
      change (if (source.readable.take (moved source target)).length = 0 then _ else
        match target.write (source.readable.take (moved source target)) with
        | (false, target) => _
        | (true, target) => proxyLoop fuel _ target) = _
      rw [hl, if_neg hm, hw]
      exact proxyLoop_of_moved_zero moved_transfer fuel

lemma proxy_eq (ho : target.isOpen = true) (watermark : ℕ) : proxy source target watermark =
    ((transfer source target).1, (transfer source target).2,
      max watermark (transfer source target).2.bytesToWrite) := by
  rw [proxy]
  rw [proxyLoop_eq ho (Nat.succ_pos _)]

lemma write_frame {ok : Bool} {d' : Device} (hw : d.write data = (ok, d')) :
    d'.readable = d.readable ∧ d'.isOpen = d.isOpen := by
  unfold Device.write at hw
  split_ifs at hw <;> obtain ⟨-, rfl⟩ := Prod.mk.inj hw <;> exact ⟨rfl, rfl⟩

lemma proxyLoop_frame (fuel : ℕ) (source target : Device) :
    (proxyLoop fuel source target).1.written = source.written ∧
      (proxyLoop fuel source target).1.isOpen = source.isOpen ∧
      (proxyLoop fuel source target).2.readable = target.readable ∧
      (proxyLoop fuel source target).2.isOpen = target.isOpen := by
  induction fuel generalizing source target with
  | zero => exact ⟨rfl, rfl, rfl, rfl⟩
  | succ fuel ih =>
    rw [proxyLoop]
    dsimp only
    split_ifs
    · exact ⟨rfl, rfl, rfl, rfl⟩
    · exact ⟨rfl, rfl, rfl, rfl⟩
    · exact ⟨rfl, rfl, rfl, rfl⟩
    · split
      · next hw => exact ⟨rfl, rfl, (write_frame hw).1, (write_frame hw).2⟩
      · next hw =>
        obtain ⟨h₁, h₂, h₃, h₄⟩ := ih _ _
        exact ⟨h₁, h₂, h₃.trans (write_frame hw).1, h₄.trans (write_frame hw).2⟩

end

end VpnClient.Socks5
