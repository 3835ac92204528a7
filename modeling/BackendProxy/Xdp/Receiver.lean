import BackendProxy.Xdp.Custody

namespace BackendProxy.Xdp

open Lib

/-! The accesses of the receiver keep the invariant, and what follows for every run. -/

section Packets

/-- An address in the first frames has no offset in its upper bits. -/
theorem extractAddr_low {addr : UInt64} (h : frameOf addr < numDescs) :
    xskUmemExtractAddr addr = addr ∧ xskUmemAddOffsetToAddr addr = addr := by
  have hlow : addr.toNat < 2 ^ 48 := by
    unfold frameOf optXskFrameSize numDescs at h
    omega
  have hextract : xskUmemExtractAddr addr = addr := by
    rw [← UInt64.toNat_inj, xskUmemExtractAddr, UInt64.toNat_and]
    change addr.toNat &&& (2 ^ 48 - 1) = addr.toNat
    rw [Nat.and_two_pow_sub_one_eq_mod, Nat.mod_eq_of_lt hlow]
  have hoffset : xskUmemExtractOffset addr = 0 := by
    rw [← UInt64.toNat_inj, xskUmemExtractOffset, UInt64.toNat_shiftRight]
    change addr.toNat >>> 48 = 0
    rw [Nat.shiftRight_eq_div_pow, Nat.div_eq_of_lt hlow]
  refine ⟨hextract, ?_⟩
  rw [xskUmemAddOffsetToAddr, hextract, hoffset, UInt64.add_zero]

/-- What is printed depends on the packet alone. -/
theorem processPacket_content {m : Nat → UInt8} {desc : XdpDesc} {packet : List UInt8}
    (h : Intact m desc packet) :
    processPacket m desc.addr.toNat desc.len.toNat = infoOf packet := by
  have hlen : packet.length = desc.len.toNat := by rw [← h.content, length_load]
  have hcell : ∀ j < desc.len.toNat,
      m (desc.addr.toNat + j) = store (fun _ => 0) 0 packet (0 + j) := by
    intro j hj
    rw [store_inside _ _ _ _ (by omega),
      ← getElem_load m desc.addr.toNat desc.len.toNat j (by simpa)]
    congr 1
    exact h.content
  have hhead := h.header
  unfold ethHlen at hhead
  unfold infoOf processPacket
  rw [hlen, hcell 12 (by omega), hcell 13 (by omega),
    load_congr fun j hj => hcell j (by omega),
    @load_congr _ _ _ (desc.addr.toNat + 6) (0 + 6) _ fun j hj => by
      rw [Nat.add_assoc, Nat.add_assoc]
      exact hcell (6 + j) (by omega)]

end Packets

section Accesses

variable {s : Xsk} {k : Marks}

theorem Sound.configured (h : Sound s k) (hpc : s.pc = .configure) :
    ∃ k', Sound (receiverAccess s) k' := by
  have hat := h.pc
  unfold Xsk.At at hat
  rw [hpc] at hat
  have hfq := h.fq
  rw [hpc, hat] at hfq
  have hgiven : k.given ≤ 0 := by
    have hle := Nat.le_trans h.given h.taken_le
    rw [hat] at hle
    exact hle
  rcases @XskRing.ProdAt.reserve _ _ _ 0 _ numDescs 0 hfq numDescs_lt h.seenFill
    hgiven (Nat.le_refl _) with ⟨fq, seen, hres, hat', hle, hge⟩ | ⟨fq, -, -, hlt⟩
  · have hrecv : receiverAccess s = { s with fq, pc := .fill (.ofNat 0) 0 } := by
      simp only [receiverAccess, hpc, h.fillConsumer, hres]
      simp
    rw [hrecv]
    refine ⟨{ k with seenFill := seen }, { h with
      submitted := ?_, released := ?_, seenFill := hge, fq := ?_, rx := ?_, pc := ?_,
      custody := ?_ }⟩
    · have hsub := h.submitted
      rw [hpc] at hsub
      exact hsub
    · have hrel := h.released
      rw [hpc] at hrel
      exact hrel
    · change fq.ProdAt numDescs seen (s.filled.length + numDescs)
      rw [hat]
      exact hat'
    · have hrx := h.rx
      rw [hpc] at hrx
      exact hrx
    · change UInt32.ofNat 0 = .ofNat s.filled.length ∧ s.filled.length = 0 ∧ 0 ≤ numDescs
      rw [hat]
      exact ⟨rfl, rfl, Nat.zero_le _⟩
    · have hcust := h.custody
      unfold Xsk.custody at hcust ⊢
      rw [hpc] at hcust
      change (List.range' 0 (numDescs - 0) ++ _).Perm _
      rw [Nat.sub_zero, ← List.range_eq_range']
      exact hcust
  · omega

theorem Sound.filling (h : Sound s k) {idx : UInt32} {i : Nat} (hpc : s.pc = .fill idx i)
    (hi : i < numDescs) : Sound (receiverAccess s) k := by
  have hat := h.pc
  unfold Xsk.At at hat
  rw [hpc] at hat
  obtain ⟨rfl, hF, -⟩ := hat
  have hfq := h.fq
  rw [hpc] at hfq
  have hslot : s.fq.slot (.ofNat s.filled.length) = s.filled.length % numDescs :=
    slot_of_mask numDescs_pow numDescs_lt hfq.mask _
  have hrecv : receiverAccess s =
      { s with
        fill :=
          { s.fill with
            ring := Function.update s.fill.ring (s.filled.length % numDescs)
              (.ofNat (i * optXskFrameSize)) }
        filled := s.filled ++ [.ofNat (i * optXskFrameSize)]
        pc := .fill (.ofNat s.filled.length + 1) (i + 1) } := by
    simp only [receiverAccess, hpc, if_pos hi, Xsk.putFill, hslot]
  have hframe : frameOf (.ofNat (i * optXskFrameSize)) = i := by
    unfold frameOf optXskFrameSize numDescs at *
    rw [UInt64.toNat_ofNat', Nat.mod_eq_of_lt (by omega), Nat.mul_div_cancel _ (by decide)]
  have hlen : (s.filled ++ [UInt64.ofNat (i * optXskFrameSize)]).length = s.filled.length + 1 :=
    List.length_append
  rw [hrecv]
  refine { h with
    submitted := ?_, released := ?_, fq := ?_, rx := ?_,
    fillWindow := h.fillWindow.write _ (by omega), pc := ?_, custody := ?_ }
  · have hsub := h.submitted
    rw [hpc] at hsub
    change (s.filled ++ [_]).length = k.submitted + (i + 1)
    change s.filled.length = k.submitted + i at hsub
    omega
  · have hrel := h.released
    rw [hpc] at hrel
    exact hrel
  · change s.fq.ProdAt numDescs k.seenFill ((s.filled ++ [_]).length + (numDescs - (i + 1)))
    change s.fq.ProdAt numDescs k.seenFill (s.filled.length + (numDescs - i)) at hfq
    rw [hlen, show s.filled.length + 1 + (numDescs - (i + 1)) =
      s.filled.length + (numDescs - i) by omega]
    exact hfq
  · have hrx := h.rx
    rw [hpc] at hrx
    exact hrx
  · refine ⟨?_, ?_, hi⟩
    · rw [hlen, UInt32.ofNat_add]
      rfl
    · change (s.filled ++ [_]).length = i + 1
      omega
  · have hcust := h.custody
    unfold Xsk.custody at hcust ⊢
    rw [hpc] at hcust
    refine List.Perm.trans ?_ hcust
    change (List.range' (i + 1) (numDescs - (i + 1)) ++
      (((s.filled ++ [_]).drop s.taken).map frameOf ++ _)).Perm (List.range' i (numDescs - i) ++ _)
    rw [List.drop_append_of_le_length h.taken_le, List.map_append, List.map_singleton, hframe,
      show numDescs - i = numDescs - (i + 1) + 1 by omega, List.range'_succ, List.append_assoc,
      List.cons_append]
    exact List.Perm.trans (List.Perm.append_left _ List.perm_middle) List.perm_middle

theorem Sound.filledAll (h : Sound s k) {idx : UInt32} {i : Nat} (hpc : s.pc = .fill idx i)
    (hi : ¬ i < numDescs) : Sound (receiverAccess s) { k with submitted := numDescs } := by
  have hat := h.pc
  unfold Xsk.At at hat
  rw [hpc] at hat
  obtain ⟨-, hF, hle⟩ := hat
  have hsub := h.submitted
  rw [hpc] at hsub
  change s.filled.length = k.submitted + i at hsub
  have hrecv : receiverAccess s =
      { s with fill := xskRingProdSubmit s.fill (.ofNat numDescs), pc := .peek } := by
    simp only [receiverAccess, hpc, if_neg hi]
  have htaken := h.taken
  rw [hrecv]
  refine { h with
    fillProducer := ?_, taken := ?_, submitted := ?_, released := ?_, fq := ?_, rx := ?_,
    pc := trivial, custody := ?_ }
  · change s.fill.producer + .ofNat numDescs = .ofNat numDescs
    rw [h.fillProducer, show k.submitted = 0 by omega, ← UInt32.ofNat_add, Nat.zero_add]
  · change s.taken ≤ numDescs
    omega
  · change s.filled.length = numDescs + 0
    omega
  · have hrel := h.released
    rw [hpc] at hrel
    exact hrel
  · have hfq := h.fq
    rw [hpc] at hfq
    change s.fq.ProdAt numDescs k.seenFill (s.filled.length + (numDescs - i)) at hfq
    rw [show numDescs - i = 0 by omega] at hfq
    exact hfq
  · have hrx := h.rx
    rw [hpc] at hrx
    exact hrx
  · have hcust := h.custody
    unfold Xsk.custody at hcust ⊢
    rw [hpc] at hcust
    change (List.range' i (numDescs - i) ++ _).Perm _ at hcust
    rw [show numDescs - i = 0 by omega] at hcust
    exact hcust

/-- In `rx_drop` all frames are in use. -/
theorem Sound.inUse (h : Sound s k) (hpc : s.pc.unfilled = []) :
    ([] ++ ((s.filled.drop s.taken).map frameOf ++ (s.held ++
      (s.described.drop s.processed.length).map fun desc : XdpDesc => frameOf desc.addr))).Perm
        (List.range numDescs) := by
  have hcust := h.custody
  unfold Xsk.custody at hcust
  rw [hpc] at hcust
  exact hcust

theorem Sound.peeked (h : Sound s k) (hpc : s.pc = .peek) :
    (∃ rx, receiverAccess s = { s with rx, pc := .peek } ∧
        Sound (receiverAccess s) { k with seenRx := k.shown } ∧
        k.shown = s.processed.length) ∨
      ∃ k' rcvd idxRx idxFq, Sound (receiverAccess s) k' ∧
        (receiverAccess s).pc = .reserve rcvd idxRx idxFq := by
  have hsub := h.submitted
  have hrel := h.released
  have hfq := h.fq
  have hrx := h.rx
  rw [hpc] at hsub hrel hfq hrx
  change s.processed.length = k.released + 0 at hrel
  change s.rx.ConsAt numDescs k.seenRx s.processed.length at hrx
  have hshown := h.shown
  have hroom := h.rxWindow.room
  rcases @XskRing.ConsAt.peek _ _ _ k.shown _ batchSize 0 hrx numDescs_lt h.seenRx (by omega)
    (by decide) (by decide) with ⟨rx, hpeek, hat, hnone⟩ | ⟨n, rx, seen, hpos, hle, hpeek, hat,
      hge, hseen⟩
  · have hrecv : receiverAccess s = { s with rx, pc := .peek } := by
      simp only [receiverAccess, hpc, h.rxProducer, hpeek, if_true]
    refine .inl ⟨rx, hrecv, ?_, hnone⟩
    rw [hrecv]
    refine { h with
      submitted := hsub, released := hrel, seenRx := Nat.le_refl _, fq := hfq, rx := hat
      pc := trivial, custody := ?_ }
    exact h.inUse (by rw [hpc]; rfl)
  · have hne : UInt32.ofNat n ≠ 0 := by
      intro hzero
      have hnat := toNat_ofNat_lt (n := n) (by unfold batchSize at hle; omega)
      rw [hzero, UInt32.toNat_zero] at hnat
      omega
    have hnat : (UInt32.ofNat n).toNat = n := toNat_ofNat_lt (by unfold batchSize at hle; omega)
    have hrecv : receiverAccess s =
        { s with rx, pc := .reserve (.ofNat n) (.ofNat s.processed.length) 0 } := by
      simp only [receiverAccess, hpc, h.rxProducer, hpeek, if_neg hne]
    refine .inr ⟨{ k with seenRx := seen }, .ofNat n, .ofNat s.processed.length, 0, ?_,
      by rw [hrecv]⟩
    rw [hrecv]
    refine { h with
      submitted := hsub, released := hrel, seenRx := hseen, fq := hfq, rx := ?_, pc := ?_
      custody := ?_ }
    · change rx.ConsAt numDescs seen (s.processed.length + (UInt32.ofNat n).toNat)
      rw [hnat]
      exact hat
    · refine ⟨rfl, ?_, ?_⟩
      · rw [hnat]
        exact hpos
      · rw [hnat]
        exact hle
    · exact h.inUse (by rw [hpc]; rfl)

/-- Entries of FILL are refused only while the kernel has not given back all it took. -/
theorem Sound.reserving (h : Sound s k) {rcvd idxRx idxFq : UInt32}
    (hpc : s.pc = .reserve rcvd idxRx idxFq) :
    (∃ k' idx, Sound (receiverAccess s) k' ∧
        (receiverAccess s).pc = .loop rcvd idxRx idx 0) ∨
      (Sound (receiverAccess s) { k with seenFill := k.given } ∧ k.given < s.taken) := by
  have hsub := h.submitted
  have hrel := h.released
  have hfq := h.fq
  have hrx := h.rx
  have hat := h.pc
  unfold Xsk.At at hat
  rw [hpc] at hsub hrel hfq hrx hat
  change s.processed.length = k.released + 0 at hrel
  change s.fq.ProdAt numDescs k.seenFill s.filled.length at hfq
  change s.rx.ConsAt numDescs k.seenRx (s.processed.length + rcvd.toNat) at hrx
  obtain ⟨hidx, hpos, hbatch⟩ := hat
  have hle : rcvd.toNat ≤ numDescs := by
    unfold batchSize at hbatch
    unfold numDescs
    omega
  have hself : UInt32.ofNat rcvd.toNat = rcvd := UInt32.ofNat_toNat
  rcases @XskRing.ProdAt.reserve _ _ _ _ _ rcvd.toNat idxFq hfq numDescs_lt h.seenFill
    (Nat.le_trans h.given h.taken_le) hle with ⟨fq, seen, hres, hat', hge, hseen⟩ |
      ⟨fq, hres, hat', hless⟩
  · have hrecv : receiverAccess s =
        { s with fq, pc := .loop rcvd idxRx (.ofNat s.filled.length) 0 } := by
      rw [hself] at hres
      simp only [receiverAccess, hpc, h.fillConsumer, hres, if_true]
    refine .inl ⟨{ k with seenFill := seen }, .ofNat s.filled.length, ?_, by rw [hrecv]⟩
    rw [hrecv]
    refine { h with
      submitted := hsub, released := hrel, seenFill := hseen, fq := hat', rx := hrx
      pc := ⟨hidx, rfl, Nat.zero_le _, hbatch⟩, custody := ?_ }
    exact h.inUse (by rw [hpc]; rfl)
  · have hne : (0 : UInt32) ≠ rcvd := by
      intro hzero
      rw [← hzero, UInt32.toNat_zero] at hpos
      omega
    have hrecv : receiverAccess s = { s with fq, pc := .reserve rcvd idxRx idxFq } := by
      rw [hself] at hres
      simp only [receiverAccess, hpc, h.fillConsumer, hres, if_neg hne]
    have hcount := h.count
    have hprocessed := h.processed_le
    rw [hpc] at hcount hprocessed
    change s.filled.length + s.held.length + s.described.length + 0 =
      numDescs + s.taken + s.processed.length at hcount
    change s.processed.length + rcvd.toNat ≤ s.described.length at hprocessed
    refine .inr ⟨?_, by omega⟩
    rw [hrecv]
    refine { h with
      submitted := hsub, released := hrel, seenFill := Nat.le_refl _, fq := hat', rx := hrx
      pc := ⟨hidx, hpos, hbatch⟩, custody := ?_ }
    exact h.inUse (by rw [hpc]; rfl)

theorem Sound.looking (h : Sound s k) {rcvd idxRx idxFq : UInt32} {i : Nat}
    (hpc : s.pc = .loop rcvd idxRx idxFq i) (hi : i < rcvd.toNat) :
    Sound (receiverAccess s) k ∧
      ∃ desc, (receiverAccess s).pc = .packet rcvd (idxRx + 1) idxFq i desc := by
  have hsub := h.submitted
  have hrel := h.released
  have hfq := h.fq
  have hrx := h.rx
  have hat := h.pc
  have hle := h.processed_le
  unfold Xsk.At at hat
  rw [hpc] at hsub hrel hfq hrx hat hle
  obtain ⟨hidx, hidx', -, hbatch⟩ := hat
  change s.processed.length = k.released + i at hrel
  change s.processed.length + (rcvd.toNat - i) ≤ s.described.length at hle
  have hrecv : receiverAccess s =
      { s with
        pc := .packet rcvd (idxRx + 1) idxFq i (s.rxRing.ring (s.rx.slot idxRx)) } := by
    simp only [receiverAccess, hpc, if_pos hi]
  rw [hrecv]
  refine ⟨{ h with
    submitted := hsub, released := hrel, fq := hfq, rx := hrx, pc := ⟨?_, hidx', hi, hbatch, ?_⟩
    custody := h.inUse (by rw [hpc]; rfl) }, _, rfl⟩
  · rw [hidx, UInt32.ofNat_add]
    rfl
  · have hlt : s.processed.length < s.described.length := by omega
    rw [hidx, slot_of_mask numDescs_pow numDescs_lt hrx.mask,
      h.rxWindow.slot _ hlt (by omega), List.getElem?_eq_getElem hlt]

theorem Sound.submitting (h : Sound s k) {rcvd idxRx idxFq : UInt32} {i : Nat}
    (hpc : s.pc = .loop rcvd idxRx idxFq i) (hi : ¬ i < rcvd.toNat) :
    Sound (receiverAccess s) { k with submitted := s.filled.length } ∧
      (receiverAccess s).pc = .release rcvd := by
  have hsub := h.submitted
  have hrel := h.released
  have hfq := h.fq
  have hrx := h.rx
  have hat := h.pc
  unfold Xsk.At at hat
  rw [hpc] at hsub hrel hfq hrx hat
  obtain ⟨-, -, hle, -⟩ := hat
  have hall : i = rcvd.toNat := by omega
  change s.filled.length = k.submitted + i at hsub
  change s.processed.length = k.released + i at hrel
  change s.fq.ProdAt numDescs k.seenFill (s.filled.length + (rcvd.toNat - i)) at hfq
  change s.rx.ConsAt numDescs k.seenRx (s.processed.length + (rcvd.toNat - i)) at hrx
  rw [hall] at hrel hfq hrx
  rw [Nat.sub_self] at hfq hrx
  have hrecv : receiverAccess s =
      { s with fill := xskRingProdSubmit s.fill rcvd, pc := .release rcvd } := by
    simp only [receiverAccess, hpc, if_neg hi]
  rw [hrecv]
  refine ⟨{ h with
    fillProducer := ?_, taken := h.taken_le, submitted := rfl, released := hrel, fq := hfq
    rx := hrx, pc := trivial, custody := h.inUse (by rw [hpc]; rfl) }, rfl⟩
  change s.fill.producer + rcvd = .ofNat s.filled.length
  rw [h.fillProducer, hsub, hall, UInt32.ofNat_add, UInt32.ofNat_toNat]

/-- The frame of a packet goes back on FILL, and what is printed is of the packet delivered. -/
theorem Sound.packet (h : Sound s k) {rcvd idxRx idxFq : UInt32} {i : Nat} {desc : XdpDesc}
    (hpc : s.pc = .packet rcvd idxRx idxFq i desc) :
    Sound (receiverAccess s) k ∧
      (receiverAccess s).pc = .loop rcvd idxRx (idxFq + 1) (i + 1) ∧
      (receiverAccess s).processed.length = s.processed.length + 1 := by
  have hsub := h.submitted
  have hrel := h.released
  have hfq := h.fq
  have hrx := h.rx
  have hat := h.pc
  unfold Xsk.At at hat
  rw [hpc] at hsub hrel hfq hrx hat
  obtain ⟨hidx, hidx', hi, hbatch, hdesc⟩ := hat
  change s.filled.length = k.submitted + i at hsub
  change s.processed.length = k.released + i at hrel
  change s.fq.ProdAt numDescs k.seenFill (s.filled.length + (rcvd.toNat - i)) at hfq
  change s.rx.ConsAt numDescs k.seenRx (s.processed.length + (rcvd.toNat - i)) at hrx
  obtain ⟨hlt, hget⟩ := List.getElem?_eq_some_iff.mp hdesc
  have hlt' : s.processed.length < s.delivered.length := by rwa [h.delivered]
  have hdrop : s.described.drop s.processed.length =
      desc :: s.described.drop (s.processed.length + 1) := by
    rw [List.drop_eq_getElem_cons hlt, hget]
  have hintacts := h.intact
  rw [hdrop, List.drop_eq_getElem_cons hlt'] at hintacts
  cases hintacts with
  | cons hintact hrest =>
    obtain ⟨horig, haddr⟩ := extractAddr_low hintact.frame
    have hslot : s.fq.slot idxFq = s.filled.length % numDescs := by
      rw [hidx', slot_of_mask numDescs_pow numDescs_lt hfq.mask]
    have hrecv : receiverAccess s =
        { s with
          fill :=
            { s.fill with
              ring := Function.update s.fill.ring (s.filled.length % numDescs) desc.addr }
          filled := s.filled ++ [desc.addr]
          processed := s.processed ++ [infoOf s.delivered[s.processed.length]]
          pc := .loop rcvd idxRx (idxFq + 1) (i + 1) } := by
      simp only [receiverAccess, hpc, Xsk.putFill, horig, haddr, hslot,
        processPacket_content hintact]
    have hlen : (s.filled ++ [desc.addr]).length = s.filled.length + 1 := List.length_append
    have hlen' : (s.processed ++ [infoOf s.delivered[s.processed.length]]).length =
        s.processed.length + 1 := List.length_append
    have hroom := hfq.room
    have hseen := h.seenFill
    rw [hrecv]
    refine ⟨{ h with
      submitted := ?_, released := ?_, fq := ?_, rx := ?_
      fillWindow := h.fillWindow.write desc.addr (by omega), pc := ⟨?_, ?_, hi, hbatch⟩
      custody := ?_, intact := ?_, processed := ?_ }, rfl, hlen'⟩
    · change (s.filled ++ [desc.addr]).length = k.submitted + (i + 1)
      omega
    · change (s.processed ++ [_]).length = k.released + (i + 1)
      omega
    · change s.fq.ProdAt numDescs k.seenFill
        ((s.filled ++ [desc.addr]).length + (rcvd.toNat - (i + 1)))
      rw [hlen, show s.filled.length + 1 + (rcvd.toNat - (i + 1)) =
        s.filled.length + (rcvd.toNat - i) by omega]
      exact hfq
    · change s.rx.ConsAt numDescs k.seenRx
        ((s.processed ++ [_]).length + (rcvd.toNat - (i + 1)))
      rw [hlen', show s.processed.length + 1 + (rcvd.toNat - (i + 1)) =
        s.processed.length + (rcvd.toNat - i) by omega]
      exact hrx
    · rw [hidx, hlen']
    · rw [hidx', hlen, UInt32.ofNat_add]
      rfl
    · refine List.Perm.trans ?_ (h.inUse (by rw [hpc]; rfl))
      change ([] ++ (((s.filled ++ [desc.addr]).drop s.taken).map frameOf ++ (s.held ++
        (s.described.drop (s.processed ++ [_]).length).map _))).Perm _
      rw [hlen', hdrop, List.drop_append_of_le_length h.taken_le, List.map_append,
        List.map_singleton, List.map_cons, List.append_assoc]
      apply List.Perm.append_left
      apply List.Perm.append_left
      rw [List.singleton_append]
      exact List.perm_middle.symm
    · change List.Forall₂ (Intact s.buffer) (s.described.drop (s.processed ++ [_]).length)
        (s.delivered.drop (s.processed ++ [_]).length)
      rw [hlen']
      exact hrest
    · change s.processed ++ [_] = (s.delivered.take (s.processed ++ [_]).length).map infoOf
      rw [hlen', List.take_succ_eq_append_getElem hlt', List.map_append, ← h.processed]
      rfl

theorem Sound.releasing (h : Sound s k) {rcvd : UInt32} (hpc : s.pc = .release rcvd) :
    Sound (receiverAccess s) { k with released := s.processed.length } ∧
      (receiverAccess s).pc = .peek := by
  have hsub := h.submitted
  have hrel := h.released
  have hfq := h.fq
  have hrx := h.rx
  have hle := h.processed_le
  rw [hpc] at hsub hrel hfq hrx hle
  change s.processed.length = k.released + rcvd.toNat at hrel
  change s.processed.length + 0 ≤ s.described.length at hle
  have hmore : k.released ≤ s.processed.length := by omega
  have hrecv : receiverAccess s =
      { s with
        rxRing := xskRingConsRelease s.rxRing rcvd
        rxNpkts := s.rxNpkts + rcvd.toUInt64
        pc := .peek } := by
    simp only [receiverAccess, hpc]
  rw [hrecv]
  refine ⟨{ h with
    rxConsumer := ?_, submitted := hsub, released := rfl, fq := hfq, rx := hrx
    rxWindow := h.rxWindow.advance hmore hle, pc := trivial
    custody := h.inUse (by rw [hpc]; rfl), rxNpkts := ?_ }, rfl⟩
  · change s.rxRing.consumer + rcvd = .ofNat s.processed.length
    rw [h.rxConsumer, hrel, UInt32.ofNat_add, UInt32.ofNat_toNat]
  · change s.rxNpkts + rcvd.toUInt64 = .ofNat s.processed.length
    rw [h.rxNpkts, hrel, UInt64.ofNat_add, UInt64.ofNat_uInt32ToNat]

/-- One access of the receiver, wherever it is. -/
theorem Sound.receiver (h : Sound s k) : ∃ k', Sound (receiverAccess s) k' := by
  cases hpc : s.pc with
  | configure => exact h.configured hpc
  | fill idx i =>
    by_cases hi : i < numDescs
    · exact ⟨k, h.filling hpc hi⟩
    · exact ⟨_, h.filledAll hpc hi⟩
  | peek =>
    rcases h.peeked hpc with ⟨-, -, h', -⟩ | ⟨k', -, -, -, h', -⟩
    · exact ⟨_, h'⟩
    · exact ⟨k', h'⟩
  | reserve rcvd idxRx idxFq =>
    rcases h.reserving hpc with ⟨k', -, h', -⟩ | ⟨h', -⟩
    · exact ⟨k', h'⟩
    · exact ⟨_, h'⟩
  | loop rcvd idxRx idxFq i =>
    by_cases hi : i < rcvd.toNat
    · exact ⟨k, (h.looking hpc hi).1⟩
    · exact ⟨_, (h.submitting hpc hi).1⟩
  | packet rcvd idxRx idxFq i desc => exact ⟨k, (h.packet hpc).1⟩
  | release rcvd => exact ⟨_, (h.releasing hpc).1⟩
  | exited =>
    have hat := h.pc
    unfold Xsk.At at hat
    rw [hpc] at hat
    exact hat.elim

end Accesses

/-! Whole runs. -/

/-- What a run of receiver and kernel has got to. -/
structure Redirects (s : Xsk) : Prop where
  /-- What is printed is of the packets delivered, in their order, each once and unchanged. -/
  processed : s.processed = (s.delivered.take s.processed.length).map infoOf
  /-- No frame is lost, and none is in two places. -/
  custody : s.custody.Perm (List.range numDescs)
  counted : s.pc = .peek → s.rxNpkts = .ofNat s.processed.length
  running : s.pc ≠ .exited
  /-- A reservation is made again only while the kernel has not told what it took. -/
  waits : ∀ rcvd idxRx idxFq, s.pc = .reserve rcvd idxRx idxFq →
    (receiverAccess s).pc = .reserve rcvd idxRx idxFq → s.fill.consumer ≠ .ofNat s.taken
  /-- Once the kernel has told all it did, the receiver gets through all packets, and gives every
  frame back that the kernel does not hold. -/
  drains : s.Told → ∃ n, (receiverRun n s).pc = .peek ∧
    (receiverRun n s).processed = s.delivered.map infoOf ∧
    (receiverRun n s).fill.producer = .ofNat (receiverRun n s).filled.length

section Runs

variable {s : Xsk} {k : Marks}

/-- The receiver leaves alone what is the kernel's. -/
theorem receiverAccess_kernel (s : Xsk) :
    (receiverAccess s).fill.consumer = s.fill.consumer ∧ (receiverAccess s).taken = s.taken ∧
      (receiverAccess s).rxRing.producer = s.rxRing.producer ∧
      (receiverAccess s).described = s.described ∧ (receiverAccess s).delivered = s.delivered := by
  unfold receiverAccess
  cases s.pc with
  | configure | peek | reserve | packet | release | exited => exact ⟨rfl, rfl, rfl, rfl, rfl⟩
  | fill | loop =>
    dsimp only
    split <;> exact ⟨rfl, rfl, rfl, rfl, rfl⟩

theorem Xsk.Told.receiver (h : s.Told) : (receiverAccess s).Told := by
  obtain ⟨hconsumer, htaken, hproducer, hdescribed, -⟩ := receiverAccess_kernel s
  unfold Xsk.Told
  rw [hconsumer, htaken, hproducer, hdescribed]
  exact h

theorem Sound.given_eq (h : Sound s k) (heq : s.fill.consumer = .ofNat s.taken) :
    k.given = s.taken := by
  have hgiven := h.given
  have hroom := h.fillWindow.room
  have htaken := h.taken_le
  rw [h.fillConsumer] at heq
  exact ((ofNat_eq_iff hgiven (by unfold numDescs at hroom; omega)).mp heq.symm).symm

theorem Sound.shown_eq (h : Sound s k) (htold : s.Told) : k.shown = s.described.length := by
  have hroom := h.rxWindow.room
  have hrel := h.released
  have hbehind := h.rx.behind
  have hseen := h.seenRx
  have heq := htold.2
  rw [h.rxProducer] at heq
  exact ((ofNat_eq_iff h.shown (by unfold numDescs at hroom; omega)).mp heq.symm).symm

/-- What is left of the accesses of the receiver where it is. -/
def RxPc.steps : RxPc → Nat
  | .configure => 7 + numDescs
  | .fill _ i => 6 + (numDescs - i)
  | .peek => 5
  | .reserve _ _ _ => 4
  | .loop rcvd _ _ i => if i < rcvd.toNat then 1 else 7
  | .packet _ _ _ _ _ => 0
  | .release _ => 6
  | .exited => 0

/-- A measure of what the receiver has to do. -/
def Xsk.work (s : Xsk) : Nat := 8 * (s.described.length - s.processed.length) + s.pc.steps

theorem work_lt {t : Xsk} (hdescribed : t.described = s.described)
    (hprocessed : t.processed = s.processed) (hpc : t.pc.steps < s.pc.steps) : t.work < s.work := by
  unfold Xsk.work
  rw [hdescribed, hprocessed]
  omega

/-- Only the work on a packet adds to what is printed. -/
theorem receiverAccess_processed (hpc : ∀ rcvd idxRx idxFq i desc,
    s.pc ≠ .packet rcvd idxRx idxFq i desc) : (receiverAccess s).processed = s.processed := by
  unfold receiverAccess
  cases hat : s.pc with
  | configure | peek | reserve | release | exited => rfl
  | fill | loop =>
    dsimp only
    split <;> rfl
  | packet rcvd idxRx idxFq i desc => exact absurd hat (hpc rcvd idxRx idxFq i desc)

/-- While there is a packet, and the kernel has told all, every access of the receiver is one less
to do. -/
theorem Sound.works (h : Sound s k) (htold : s.Told) :
    (s.pc = .peek ∧ s.processed.length = s.described.length) ∨
      (receiverAccess s).work < s.work := by
  have hdescribed := (receiverAccess_kernel s).2.2.2.1
  cases hpc : s.pc with
  | configure =>
    obtain ⟨k', h'⟩ := h.configured hpc
    refine .inr (work_lt hdescribed (receiverAccess_processed (by simp [hpc])) ?_)
    have hat := h'.pc
    have hrecv : (receiverAccess s).pc = .exited ∨ ∃ idx, (receiverAccess s).pc = .fill idx 0 := by
      simp only [receiverAccess, hpc]
      split
      · exact .inl rfl
      · exact .inr ⟨_, rfl⟩
    rcases hrecv with hexited | ⟨idx, hfill⟩
    · unfold Xsk.At at hat
      rw [hexited] at hat
      exact hat.elim
    · rw [hpc, hfill]
      simp only [RxPc.steps]
      omega
  | fill idx i =>
    refine .inr (work_lt hdescribed (receiverAccess_processed (by simp [hpc])) ?_)
    rw [hpc]
    by_cases hi : i < numDescs
    · simp only [receiverAccess, hpc, if_pos hi, RxPc.steps]
      omega
    · simp only [receiverAccess, hpc, if_neg hi, RxPc.steps]
      omega
  | peek =>
    rcases h.peeked hpc with ⟨-, -, -, hnone⟩ | ⟨-, rcvd, idxRx, idxFq, -, hnext⟩
    · rw [h.shown_eq htold] at hnone
      exact .inl ⟨rfl, hnone.symm⟩
    · refine .inr (work_lt hdescribed (receiverAccess_processed (by simp [hpc])) ?_)
      rw [hpc, hnext]
      exact Nat.lt_succ_self 4
  | reserve rcvd idxRx idxFq =>
    rcases h.reserving hpc with ⟨-, idx, -, hnext⟩ | ⟨-, hless⟩
    · refine .inr (work_lt hdescribed (receiverAccess_processed (by simp [hpc])) ?_)
      have hat := h.pc
      unfold Xsk.At at hat
      rw [hpc] at hat
      rw [hpc, hnext]
      simp only [RxPc.steps, if_pos hat.2.1]
      omega
    · rw [h.given_eq htold.1] at hless
      omega
  | loop rcvd idxRx idxFq i =>
    refine .inr (work_lt hdescribed (receiverAccess_processed (by simp [hpc])) ?_)
    by_cases hi : i < rcvd.toNat
    · obtain ⟨-, desc, hnext⟩ := h.looking hpc hi
      rw [hpc, hnext]
      simp only [RxPc.steps, if_pos hi]
      omega
    · rw [hpc, (h.submitting hpc hi).2]
      simp only [RxPc.steps, if_neg hi]
      omega
  | packet rcvd idxRx idxFq i desc =>
    obtain ⟨-, hnext, hlen⟩ := h.packet hpc
    have hle := h.processed_le
    have hi := h.pc
    unfold Xsk.At at hi
    rw [hpc] at hle hi
    change s.processed.length + (rcvd.toNat - i) ≤ s.described.length at hle
    obtain ⟨-, -, hi, -⟩ := hi
    refine .inr ?_
    unfold Xsk.work
    rw [hdescribed, hlen, hnext, hpc]
    simp only [RxPc.steps]
    split <;> omega
  | release rcvd =>
    refine .inr (work_lt hdescribed (receiverAccess_processed (by simp [hpc])) ?_)
    rw [hpc, (h.releasing hpc).2]
    exact Nat.lt_succ_self 5
  | exited =>
    have hat := h.pc
    unfold Xsk.At at hat
    rw [hpc] at hat
    exact hat.elim

/-- Induction on the work left. -/
theorem Sound.drains (h : Sound s k) (htold : s.Told) :
    ∃ n, (receiverRun n s).pc = .peek ∧ (receiverRun n s).processed = s.delivered.map infoOf ∧
      (receiverRun n s).fill.producer = .ofNat (receiverRun n s).filled.length := by
  generalize hwork : s.work = w
  induction w using Nat.strongRecOn generalizing s k with
  | ind w ih =>
    rcases h.works htold with ⟨hpc, hlen⟩ | hless
    · have hsub := h.submitted
      rw [hpc] at hsub
      change s.filled.length = k.submitted + 0 at hsub
      refine ⟨0, hpc, ?_, ?_⟩
      · have hprocessed := h.processed
        rw [hlen, ← h.delivered, List.take_length] at hprocessed
        exact hprocessed
      · change s.fill.producer = .ofNat s.filled.length
        rw [h.fillProducer, hsub, Nat.add_zero]
    · obtain ⟨k', h'⟩ := h.receiver
      obtain ⟨n, hn⟩ := ih _ (hwork ▸ hless) h' htold.receiver rfl
      rw [(receiverAccess_kernel s).2.2.2.2] at hn
      exact ⟨n + 1, hn⟩

theorem Sound.redirects (h : Sound s k) : Redirects s where
  processed := h.processed
  custody := h.custody
  counted := by
    intro hpc
    have hrel := h.released
    rw [hpc] at hrel
    rw [h.rxNpkts, hrel]
    rfl
  running := by
    intro hpc
    have hat := h.pc
    unfold Xsk.At at hat
    rw [hpc] at hat
    exact hat
  waits := by
    intro rcvd idxRx idxFq hpc hagain heq
    rcases h.reserving hpc with ⟨-, idx, -, hnext⟩ | ⟨-, hless⟩
    · rw [hnext] at hagain
      cases hagain
    · rw [h.given_eq heq] at hless
      omega
  drains := h.drains

end Runs

/-- In every run of receiver and kernel, whatever the kernel does when, every packet is printed once
and in order, no frame gets lost or into two hands, and the receiver never stops short. -/
theorem redirect_endToEnd {start s : Xsk} {acts : List XskAct} (hstart : Created start)
    (hrun : run xskStep start acts = .ok s) : Redirects s := by
  have hsound : ∃ k, Sound s k := by
    refine run_invariant (I := fun s => ∃ k, Sound s k) (C := fun _ _ => True) ?_
      ⟨_, created_sound hstart⟩ (allSteps_true _ _) hrun
    rintro s act s' ⟨k, h⟩ - hact
    cases act with
    | receiver =>
      cases hact
      exact h.receiver
    | kernel act => exact h.kernel hact
  obtain ⟨k, h⟩ := hsound
  exact h.redirects

/-- Rings and frames as they are created. -/
def freshXsk : Xsk :=
  { fq := { cachedProd := 0, cachedCons := 2048, mask := 2047, size := 2048 }
    rx := { cachedProd := 0, cachedCons := 0, mask := 2047, size := 2048 }
    fill := { producer := 0, consumer := 0, ring := fun _ => 0 }
    rxRing := { producer := 0, consumer := 0, ring := fun _ => { addr := 0, len := 0 } }
    buffer := fun _ => 0, pc := .configure, rxNpkts := 0, taken := 0, held := [], filled := []
    described := [], delivered := [], processed := [] }

theorem freshXsk_created : Created freshXsk :=
  ⟨rfl, rfl, ⟨rfl, rfl⟩, ⟨rfl, rfl⟩, rfl, rfl, rfl, rfl, rfl, rfl, rfl, rfl⟩

/-- The FILL ring with the first frames on it. -/
def firstFrames (n : Nat) (slot : Nat) : UInt64 :=
  if slot < n then .ofNat (slot * optXskFrameSize) else 0

/-- The receiver in `xsk_configure_socket`, with the first frames put on FILL. -/
def fillingXsk (n : Nat) : Xsk :=
  { freshXsk with
    fq := { cachedProd := 2048, cachedCons := 2048, mask := 2047, size := 2048 }
    fill := { producer := 0, consumer := 0, ring := firstFrames n }
    pc := .fill (.ofNat n) n
    filled := (List.range n).map fun i => .ofNat (i * optXskFrameSize) }

theorem firstFrames_succ (n : Nat) :
    Function.update (firstFrames n) n (.ofNat (n * optXskFrameSize)) = firstFrames (n + 1) := by
  funext slot
  unfold firstFrames
  by_cases heq : slot = n
  · rw [heq, Function.update_self, if_pos (Nat.lt_succ_self n)]
  · rw [Function.update_of_ne heq]
    by_cases hlt : slot < n
    · rw [if_pos hlt, if_pos (Nat.lt_succ_of_lt hlt)]
    · rw [if_neg hlt, if_neg (by omega)]

theorem freshXsk_next : receiverAccess freshXsk = fillingXsk 0 := by
  have hnum : UInt32.ofNat numDescs = 2048 := by
    unfold numDescs
    rfl
  have hframes : firstFrames 0 = fun _ => 0 := funext fun _ => if_neg (Nat.not_lt_zero _)
  unfold fillingXsk
  rw [hframes]
  unfold receiverAccess
  dsimp only [freshXsk]
  rw [hnum]
  rfl

theorem fillingXsk_next {n : Nat} (h : n < numDescs) :
    receiverAccess (fillingXsk n) = fillingXsk (n + 1) := by
  have hslot : (fillingXsk n).fq.slot (.ofNat n) = n := by
    have hmask : (fillingXsk n).fq.mask = UInt32.ofNat (numDescs - 1) := by
      unfold numDescs
      rfl
    rw [slot_of_mask numDescs_pow numDescs_lt hmask, Nat.mod_eq_of_lt h]
  have hnext : receiverAccess (fillingXsk n) =
      { (fillingXsk n).putFill (.ofNat n) (.ofNat (n * optXskFrameSize)) with
        pc := .fill (.ofNat n + 1) (n + 1) } := if_pos h
  rw [hnext]
  unfold Xsk.putFill
  rw [hslot]
  unfold fillingXsk
  simp only [firstFrames_succ, List.range_succ, List.map_append, List.map_cons, List.map_nil,
    UInt32.ofNat_add]
  rfl

theorem fillingXsk_run {n more : Nat} (h : n + more ≤ numDescs) :
    run xskStep (fillingXsk n) (List.replicate more .receiver) = .ok (fillingXsk (n + more)) := by
  induction more generalizing n with
  | zero => rfl
  | succ more ih =>
    rw [List.replicate_succ, run_cons_ok _ (congrArg Except.ok (fillingXsk_next (by omega))),
      ih (by omega), Nat.add_right_comm, Nat.add_assoc]

/-- An Ethernet frame of one byte. -/
def helloPacket : List UInt8 := [1, 2, 3, 4, 5, 6, 11, 12, 13, 14, 15, 16, 8, 0, 42]

/-- The kernel takes the first frame and shows a packet in it; the receiver prints it and gives the
frame back. -/
def helloActs : List XskAct :=
  [.receiver, .kernel .take, .kernel .release, .kernel (.write 0 256 helloPacket),
    .kernel (.deliver 0 256 15), .kernel .submit, .receiver, .receiver, .receiver, .receiver,
    .receiver, .receiver]

theorem redirect_endToEnd_hello :
    ∃ s, run xskStep freshXsk (.receiver :: (List.replicate numDescs .receiver ++ helloActs)) =
        .ok s ∧ Redirects s ∧ s.delivered = [helloPacket] ∧ s.processed = [infoOf helloPacket] ∧
      s.fill.producer = 2049 ∧ s.fill.ring 0 = 256 ∧ s.rxRing.consumer = 1 ∧ s.rxNpkts = 1 ∧
      s.pc = .peek := by
  have hfilled : run xskStep (fillingXsk 0) (List.replicate numDescs .receiver) =
      .ok (fillingXsk numDescs) := by
    rw [fillingXsk_run (Nat.le_of_eq (Nat.zero_add _)), Nat.zero_add]
  obtain ⟨s, hs, hview⟩ := reached_of_view (f := fun s : Xsk => ((s.delivered, s.processed),
    (s.fill.producer, s.fill.ring 0), (s.rxRing.consumer, s.rxNpkts), s.pc))
    (b := (([helloPacket], [infoOf helloPacket]), (2049, 256), (1, 1), .peek))
    (show (run xskStep (fillingXsk numDescs) helloActs).toOption.map _ = _ by decide +kernel)
  have hrun : run xskStep freshXsk
      (.receiver :: (List.replicate numDescs .receiver ++ helloActs)) = .ok s := by
    rw [run_cons_ok _ (congrArg Except.ok freshXsk_next), run_append helloActs hfilled, hs]
  simp only [Prod.mk.injEq] at hview
  obtain ⟨⟨hdelivered, hprocessed⟩, ⟨hproducer, hring⟩, ⟨hconsumer, hpkts⟩, hpc⟩ := hview
  exact ⟨s, hrun, redirect_endToEnd freshXsk_created hrun, hdelivered, hprocessed, hproducer,
    hring, hconsumer, hpkts, hpc⟩

end BackendProxy.Xdp
