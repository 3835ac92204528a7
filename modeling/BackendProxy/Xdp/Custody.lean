import BackendProxy.Xdp.Redirect
import Mathlib.Data.List.Forall2

namespace BackendProxy.Xdp

open Lib

/-! Who has which frame: the invariant of receiver and kernel. -/

/-- Entries of RX that were peeked, and whose packets are not processed. -/
def RxPc.left : RxPc → Nat
  | .reserve rcvd _ _ => rcvd.toNat
  | .loop rcvd _ _ i => rcvd.toNat - i
  | .packet rcvd _ _ i _ => rcvd.toNat - i
  | _ => 0

/-- Packets processed whose entries of RX are not released. -/
def RxPc.unreleased : RxPc → Nat
  | .loop _ _ _ i => i
  | .packet _ _ _ i _ => i
  | .release rcvd => rcvd.toNat
  | _ => 0

/-- Entries of FILL that are reserved and not written. -/
def RxPc.toFill : RxPc → Nat
  | .fill _ i => numDescs - i
  | .loop rcvd _ _ i => rcvd.toNat - i
  | .packet rcvd _ _ i _ => rcvd.toNat - i
  | _ => 0

/-- Entries of FILL that are written and not submitted. -/
def RxPc.unsubmitted : RxPc → Nat
  | .fill _ i => i
  | .loop _ _ _ i => i
  | .packet _ _ _ i _ => i
  | _ => 0

/-- What the receiver knows where it is. -/
def Xsk.At (s : Xsk) : Prop :=
  match s.pc with
  | .configure => s.filled = []
  | .fill idx i => idx = .ofNat s.filled.length ∧ s.filled.length = i ∧ i ≤ numDescs
  | .peek => True
  | .reserve rcvd idxRx _ =>
    idxRx = .ofNat s.processed.length ∧ 0 < rcvd.toNat ∧ rcvd.toNat ≤ batchSize
  | .loop rcvd idxRx idxFq i =>
    idxRx = .ofNat s.processed.length ∧ idxFq = .ofNat s.filled.length ∧ i ≤ rcvd.toNat ∧
      rcvd.toNat ≤ batchSize
  | .packet rcvd idxRx idxFq i desc =>
    idxRx = .ofNat (s.processed.length + 1) ∧ idxFq = .ofNat s.filled.length ∧ i < rcvd.toNat ∧
      rcvd.toNat ≤ batchSize ∧ s.described[s.processed.length]? = some desc
  | .release _ => True
  | .exited => False

/-- The shared counters as numbers of entries, and where the receiver last saw the kernel. -/
structure Marks where
  submitted : Nat
  given : Nat
  seenFill : Nat
  shown : Nat
  released : Nat
  seenRx : Nat

/-- The packet is in its frame, as it was delivered. -/
structure Intact (m : Nat → UInt8) (desc : XdpDesc) (packet : List UInt8) : Prop where
  content : load m desc.addr.toNat desc.len.toNat = packet
  header : ethHlen ≤ desc.len.toNat
  inside : desc.addr.toNat % optXskFrameSize + desc.len.toNat ≤ optXskFrameSize
  frame : frameOf desc.addr < numDescs

structure Sound (s : Xsk) (k : Marks) : Prop where
  fillProducer : s.fill.producer = .ofNat k.submitted
  fillConsumer : s.fill.consumer = .ofNat k.given
  rxProducer : s.rxRing.producer = .ofNat k.shown
  rxConsumer : s.rxRing.consumer = .ofNat k.released
  given : k.given ≤ s.taken
  taken : s.taken ≤ k.submitted
  submitted : s.filled.length = k.submitted + s.pc.unsubmitted
  released : s.processed.length = k.released + s.pc.unreleased
  shown : k.shown ≤ s.described.length
  seenFill : k.seenFill ≤ k.given
  seenRx : k.seenRx ≤ k.shown
  fq : s.fq.ProdAt numDescs k.seenFill (s.filled.length + s.pc.toFill)
  rx : s.rx.ConsAt numDescs k.seenRx (s.processed.length + s.pc.left)
  fillWindow : Window numDescs s.fill.ring s.filled k.given
  rxWindow : Window numDescs s.rxRing.ring s.described k.released
  pc : s.At
  custody : s.custody.Perm (List.range numDescs)
  delivered : s.delivered.length = s.described.length
  intact : List.Forall₂ (Intact s.buffer) (s.described.drop s.processed.length)
    (s.delivered.drop s.processed.length)
  processed : s.processed = (s.delivered.take s.processed.length).map infoOf
  rxNpkts : s.rxNpkts = .ofNat k.released

theorem numDescs_pow : numDescs.isPowerOfTwo := by
  unfold numDescs
  exact ⟨11, rfl⟩

theorem numDescs_lt : numDescs < 4294967296 := by
  unfold numDescs
  decide

section Facts

variable {s : Xsk} {k : Marks}

theorem created_sound (h : Created s) : Sound s ⟨0, 0, 0, 0, 0, 0⟩ where
  fillProducer := h.fill.1
  fillConsumer := h.fill.2
  rxProducer := h.rxRing.1
  rxConsumer := h.rxRing.2
  given := Nat.zero_le _
  taken := Nat.le_of_eq h.taken
  submitted := by
    rw [h.filled, h.pc]
    rfl
  released := by
    rw [h.processed, h.pc]
    rfl
  shown := Nat.zero_le _
  seenFill := Nat.le_refl _
  seenRx := Nat.le_refl _
  fq := by
    rw [h.fq, h.filled, h.pc]
    unfold numDescs
    exact ⟨rfl, rfl, rfl, rfl, Nat.le_refl _, Nat.zero_le _⟩
  rx := by
    rw [h.rx, h.processed, h.pc]
    unfold numDescs
    exact ⟨rfl, rfl, rfl, rfl, Nat.le_refl _, Nat.zero_le _⟩
  fillWindow := by
    rw [h.filled]
    exact window_empty _ _
  rxWindow := by
    rw [h.described]
    exact window_empty _ _
  pc := by
    unfold Xsk.At
    rw [h.pc]
    exact h.filled
  custody := by
    unfold Xsk.custody
    rw [h.pc, h.filled, h.held, h.described]
    simp [RxPc.unfilled]
  delivered := by rw [h.delivered, h.described]; rfl
  intact := by
    rw [h.described, h.delivered]
    simp
  processed := by
    rw [h.processed, h.delivered]
    rfl
  rxNpkts := h.rxNpkts

/-- What is peeked was described. -/
theorem Sound.processed_le (h : Sound s k) :
    s.processed.length + s.pc.left ≤ s.described.length :=
  Nat.le_trans h.rx.behind (Nat.le_trans h.seenRx h.shown)

theorem Sound.taken_le (h : Sound s k) : s.taken ≤ s.filled.length := by
  have := h.taken
  have := h.submitted
  omega

theorem Sound.nodup (h : Sound s k) : s.custody.Nodup := h.custody.nodup_iff.mpr List.nodup_range

theorem Sound.held_lt (h : Sound s k) {frame : Nat} (hheld : frame ∈ s.held) :
    frame < numDescs := by
  apply List.mem_range.mp
  apply h.custody.mem_iff.mp
  simp [Xsk.custody, hheld]

/-- A frame the kernel holds is not one of a packet on RX. -/
theorem Sound.apart (h : Sound s k) {desc : XdpDesc} {frame : Nat} (hheld : frame ∈ s.held)
    (hdesc : desc ∈ s.described.drop s.processed.length) : frameOf desc.addr ≠ frame := by
  have hnodup := h.nodup
  unfold Xsk.custody at hnodup
  have hrest := (List.nodup_append.mp (List.nodup_append.mp hnodup).2.1).2.1
  intro heq
  apply (List.nodup_append.mp hrest).2.2 frame hheld _ _ heq.symm
  exact List.mem_map.mpr ⟨desc, hdesc, rfl⟩

/-- Of the frames that are on FILL or hold a packet there are never more than entries. -/
theorem Sound.count (h : Sound s k) :
    s.filled.length + s.held.length + s.described.length + s.pc.unfilled.length =
      numDescs + s.taken + s.processed.length := by
  have hlen := h.custody.length_eq
  have := h.taken_le
  have := h.processed_le
  simp only [Xsk.custody, List.length_append, List.length_map, List.length_drop,
    List.length_range] at hlen
  omega

end Facts

/-! The kernel. -/

section Kernel

variable {s s' : Xsk} {k : Marks}

theorem Sound.kernelTake (h : Sound s k) (hmore : UInt32.ofNat s.taken ≠ s.fill.producer) :
    Sound { s with held := frameOf (s.fill.ring (s.taken % numDescs)) :: s.held
                   taken := s.taken + 1 } k := by
  have hne : s.taken ≠ k.submitted := by
    intro heq
    rw [h.fillProducer, heq] at hmore
    exact hmore rfl
  have htaken := h.taken
  have hlt : s.taken < s.filled.length := by
    have := h.submitted
    omega
  have hgiven := h.given
  refine { h with given := ?_, taken := ?_, custody := ?_ }
  · change k.given ≤ s.taken + 1
    omega
  · change s.taken + 1 ≤ k.submitted
    omega
  · refine List.Perm.trans ?_ h.custody
    unfold Xsk.custody
    apply List.Perm.append_left
    rw [List.drop_eq_getElem_cons hlt, h.fillWindow.slot _ hlt h.given, List.map_cons,
      List.cons_append, List.cons_append]
    exact List.perm_middle

theorem Sound.kernelRelease (h : Sound s k) :
    Sound { s with fill := { s.fill with consumer := .ofNat s.taken } }
      { k with given := s.taken } :=
  { h with
    fillConsumer := rfl
    given := Nat.le_refl _
    seenFill := Nat.le_trans h.seenFill h.given
    fillWindow := h.fillWindow.advance h.given h.taken_le }

/-- Addresses in different frames are apart. -/
theorem frames_apart {a b n m : Nat} (hne : a / optXskFrameSize ≠ b / optXskFrameSize)
    (ha : a % optXskFrameSize + n ≤ optXskFrameSize)
    (hb : b % optXskFrameSize + m ≤ optXskFrameSize) : a + n ≤ b ∨ b + m ≤ a := by
  unfold optXskFrameSize at *
  omega

theorem Sound.kernelWrite (h : Sound s k) {frame off : Nat} {bytes : List UInt8}
    (hheld : frame ∈ s.held) (hin : off + bytes.length ≤ optXskFrameSize)
    (hlt : off < optXskFrameSize) :
    Sound { s with buffer := store s.buffer (frameAddr frame off) bytes } k := by
  refine { h with intact := ?_ }
  obtain ⟨hlen, hall⟩ := List.forall₂_iff_zip.mp h.intact
  refine List.forall₂_iff_zip.mpr ⟨hlen, ?_⟩
  intro desc packet hmem
  have hintact := hall hmem
  have hne : desc.addr.toNat / optXskFrameSize ≠ frameAddr frame off / optXskFrameSize := by
    have happart := h.apart hheld (List.of_mem_zip hmem).1
    unfold frameOf at happart
    unfold frameAddr optXskFrameSize at *
    omega
  have hoff : frameAddr frame off % optXskFrameSize + bytes.length ≤ optXskFrameSize := by
    unfold frameAddr optXskFrameSize at *
    omega
  refine { hintact with content := ?_ }
  rw [load_store_apart _ _ _ _ _ (frames_apart hne hintact.inside hoff)]
  exact hintact.content

theorem Sound.kernelDeliver (h : Sound s k) {frame off len : Nat} (hheld : frame ∈ s.held)
    (hhead : ethHlen ≤ len) (hin : off + len ≤ optXskFrameSize)
    (hroom : (UInt32.ofNat s.described.length - s.rxRing.consumer).toNat < numDescs) :
    let desc : XdpDesc := { addr := .ofNat (frameAddr frame off), len := .ofNat len }
    Sound
      { s with
        rxRing :=
          { s.rxRing with
            ring := Function.update s.rxRing.ring (s.described.length % numDescs) desc }
        held := s.held.erase frame
        described := s.described ++ [desc]
        delivered := s.delivered ++ [load s.buffer (frameAddr frame off) len] } k := by
  intro desc
  have hframe := h.held_lt hheld
  have hle := h.processed_le
  have hlen : desc.len.toNat = len := by
    apply toNat_ofNat_lt
    unfold optXskFrameSize at hin
    omega
  have haddr : desc.addr.toNat = frameAddr frame off := by
    rw [UInt64.toNat_ofNat']
    apply Nat.mod_eq_of_lt
    unfold frameAddr optXskFrameSize numDescs at *
    omega
  have hof : frameOf desc.addr = frame := by
    unfold frameOf
    rw [haddr]
    unfold frameAddr optXskFrameSize ethHlen at *
    omega
  have hfree : s.described.length < k.released + numDescs := by
    have hstarted := h.rxWindow.started
    have hmost := h.rxWindow.room
    rw [h.rxConsumer, ofNat_sub_toNat hstarted (by unfold numDescs at hmost; omega)] at hroom
    omega
  have hdrop : (s.described ++ [desc]).drop s.processed.length =
      s.described.drop s.processed.length ++ [desc] := List.drop_append_of_le_length (by omega)
  have hdrop' : ∀ packet, (s.delivered ++ [packet]).drop s.processed.length =
      s.delivered.drop s.processed.length ++ [packet] := by
    intro packet
    apply List.drop_append_of_le_length
    rw [h.delivered]
    omega
  refine { h with
    shown := ?_, rxWindow := h.rxWindow.write desc hfree, pc := ?_, custody := ?_, delivered := ?_,
    intact := ?_, processed := ?_ }
  · have hshown := h.shown
    change k.shown ≤ (s.described ++ [desc]).length
    rw [List.length_append]
    omega
  · have hpc := h.pc
    unfold Xsk.At at hpc ⊢
    cases hat : s.pc with
    | packet rcvd idxRx idxFq i d =>
      rw [hat] at hpc
      refine ⟨hpc.1, hpc.2.1, hpc.2.2.1, hpc.2.2.2.1, ?_⟩
      exact List.getElem?_append_left (List.getElem?_eq_some_iff.mp hpc.2.2.2.2).1 ▸ hpc.2.2.2.2
    | configure | fill | peek | reserve | loop | release | exited =>
      rw [hat] at hpc
      exact hpc
  · refine List.Perm.trans ?_ h.custody
    unfold Xsk.custody
    apply List.Perm.append_left
    apply List.Perm.append_left
    change (s.held.erase frame ++ ((s.described ++ [desc]).drop s.processed.length).map _).Perm _
    rw [hdrop, List.map_append, List.map_singleton, hof, ← List.append_assoc]
    refine List.Perm.trans List.perm_append_comm ?_
    rw [← List.append_assoc]
    exact List.Perm.append_right _ (List.perm_cons_erase hheld).symm
  · change (s.delivered ++ _).length = (s.described ++ [desc]).length
    rw [List.length_append, List.length_append, h.delivered]
    rfl
  · change List.Forall₂ (Intact s.buffer) ((s.described ++ [desc]).drop s.processed.length)
      ((s.delivered ++ _).drop s.processed.length)
    rw [hdrop, hdrop']
    refine List.rel_append h.intact (.cons ⟨?_, ?_, ?_, ?_⟩ .nil)
    · rw [haddr, hlen]
    · rw [hlen]
      exact hhead
    · rw [haddr, hlen]
      unfold frameAddr optXskFrameSize ethHlen at *
      omega
    · rw [hof]
      exact hframe
  · change s.processed = ((s.delivered ++ _).take s.processed.length).map infoOf
    rw [List.take_append_of_le_length (by rw [h.delivered]; omega)]
    exact h.processed

theorem Sound.kernelSubmit (h : Sound s k) :
    Sound { s with rxRing := { s.rxRing with producer := .ofNat s.described.length } }
      { k with shown := s.described.length } :=
  { h with
    rxProducer := rfl
    shown := Nat.le_refl _
    seenRx := Nat.le_trans h.seenRx h.shown }

theorem Sound.kernel (h : Sound s k) {act : KernelAct} (hact : kernelAccess s act = .ok s') :
    ∃ k', Sound s' k' := by
  cases act with
  | take =>
    simp only [kernelAccess] at hact
    split at hact
    · rename_i hmore
      cases hact
      exact ⟨k, h.kernelTake hmore⟩
    · cases hact
  | release =>
    cases hact
    exact ⟨_, h.kernelRelease⟩
  | write frame off bytes =>
    simp only [kernelAccess] at hact
    split at hact
    · rename_i hin
      cases hact
      by_cases hlt : off < optXskFrameSize
      · exact ⟨k, h.kernelWrite hin.1 hin.2 hlt⟩
      · have hnil : bytes = [] := List.eq_nil_of_length_eq_zero (by omega)
        rw [hnil, store_nil]
        exact ⟨k, h⟩
    · cases hact
  | deliver frame off len =>
    simp only [kernelAccess] at hact
    split at hact
    · rename_i hin
      cases hact
      exact ⟨k, h.kernelDeliver hin.1 hin.2.1 hin.2.2.1 hin.2.2.2⟩
    · cases hact
  | submit =>
    cases hact
    exact ⟨_, h.kernelSubmit⟩

end Kernel

end BackendProxy.Xdp
