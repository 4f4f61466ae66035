import Mcus.Uds.Transfer

/-! # The tester's download loop

The update sequence of `README_DOIP.md`: RequestDownload, one TransferData per block with a counter
that starts at `1`, RequestTransferExit. The README counts in a `uint8_t`, which goes from `255` to
`0`; the handler goes from `255` to `1`. The two agree for `255` blocks and never again, so the
documented loop carries images of at most `255` blocks, and a loop that counts as the handler does
carries every image.
-/

namespace Mcus.Uds
open ByteOrder BlockStore Runs
set_option autoImplicit false

/-! ## The requests of the loop -/

/-- One TransferData per block, with counters `seq`, `next seq`, and so on. -/
def testerBlocks (next : UInt8 → UInt8) : UInt8 → List (List UInt8) → List (List UInt8)
  | _, [] => []
  | seq, block :: blocks => (Sid.transferData :: seq :: block) :: testerBlocks next (next seq) blocks

/-- The requests that send `blocks` to address `a`. -/
def testerRequests (next : UInt8 → UInt8) (a : UInt32) (blocks : List (List UInt8)) :
    List (List UInt8) :=
  (Sid.requestDownload :: 0x00 :: 0x44 ::
      (beBytes32 a ++ beBytes32 (UInt32.ofNat blocks.flatten.length))) ::
    (testerBlocks next 1 blocks ++ [[Sid.requestTransferExit]])

/-- `seq++` on a `uint8_t`, as in the README. -/
def seqIncrement (seq : UInt8) : UInt8 := seq + 1

/-- `blocks` cut the image into consecutive blocks of at most `b` bytes. -/
structure IsCut (b : ℕ) (image : List UInt8) (blocks : List (List UInt8)) : Prop where
  flatten : blocks.flatten = image
  sizes : ∀ block ∈ blocks, 0 < block.length ∧ block.length ≤ b

/-- The requests carry `bytes`, with room for every response and a flash that stores every block. -/
structure Carries (rs : List Request) (bytes : List (List UInt8)) : Prop where
  bytes : rs.map (·.bytes) = bytes
  room : ∀ r ∈ rs, 4 ≤ r.respCap
  stores : ∀ r ∈ rs, r.platform.writeStatus = 0

/-- Every request is answered positively and the image is in the flash. -/
structure TesterSucceeds (calculateKey : UInt32 → UInt32) (h : UDSHandler) (flash : Memory UInt8)
    (a : UInt32) (image : List UInt8) (rs : List Request) : Prop where
  answered : ∀ e ∈ (udsMachine calculateKey).trace h rs, ∃ sid, positiveTo sid e = true
  flashed : load (storeAll flash (storedWrites ((udsMachine calculateKey).trace h rs)))
    a.toNat image.length = image

variable {calculateKey : UInt32 → UInt32} {h : UDSHandler} {rs : List Request} {r : Request}

theorem Carries.tail {bytes : List UInt8} {rest : List (List UInt8)} (hc : Carries (r :: rs) (bytes :: rest)) :
    r.bytes = bytes ∧ 4 ≤ r.respCap ∧ r.platform.writeStatus = 0 ∧ Carries rs rest := by
  obtain ⟨hb, hroom, hstores⟩ := hc
  rw [List.map_cons, List.cons.injEq] at hb
  refine ⟨hb.1, hroom r List.mem_cons_self, hstores r List.mem_cons_self, hb.2, ?_, ?_⟩
  · exact fun q hq => hroom q (List.mem_cons_of_mem _ hq)
  · exact fun q hq => hstores q (List.mem_cons_of_mem _ hq)

theorem Carries.split {front back : List (List UInt8)} (hc : Carries rs (front ++ back)) :
    ∃ fs bs, rs = fs ++ bs ∧ Carries fs front ∧ Carries bs back := by
  obtain ⟨fs, bs, rfl, hf, hb⟩ := List.map_eq_append_iff.mp hc.bytes
  refine ⟨fs, bs, rfl, ⟨hf, ?_, ?_⟩, ⟨hb, ?_, ?_⟩⟩
  · exact fun q hq => hc.room q (List.mem_append_left _ hq)
  · exact fun q hq => hc.stores q (List.mem_append_left _ hq)
  · exact fun q hq => hc.room q (List.mem_append_right _ hq)
  · exact fun q hq => hc.stores q (List.mem_append_right _ hq)

theorem Carries.nonempty {bytes : List UInt8} {rest : List (List UInt8)} (hc : Carries rs (bytes :: rest)) :
    ∃ r rs', rs = r :: rs' := by
  obtain ⟨r, rs', rfl, -, -⟩ := List.map_eq_cons_iff.mp hc.bytes
  exact ⟨r, rs', rfl⟩

/-! ## Both counters agree on the first 255 blocks -/

theorem nextBlockSequenceCounter_of_ne {seq : UInt8} (hne : seq + 1 ≠ 0) :
    nextBlockSequenceCounter seq = seqIncrement seq := if_neg hne

theorem testerBlocks_agree {seq : UInt8} {blocks : List (List UInt8)}
    (hlen : seq.toNat + blocks.length ≤ 256) :
    testerBlocks seqIncrement seq blocks = testerBlocks nextBlockSequenceCounter seq blocks := by
  induction blocks generalizing seq with
  | nil => rfl
  | cons block blocks ih =>
    rw [List.length_cons] at hlen
    cases blocks with
    | nil => rfl
    | cons next blocks =>
      have hsucc : (seq + 1).toNat = seq.toNat + 1 := by
        rw [List.length_cons] at hlen
        rw [UInt8.toNat_add]
        exact Nat.mod_eq_of_lt (by simp; omega)
      have hne : seq + 1 ≠ 0 := by
        intro hzero
        rw [hzero] at hsucc
        exact absurd hsucc (by simp)
      have hrest := @ih (seqIncrement seq) (by unfold seqIncrement; omega)
      calc testerBlocks seqIncrement seq (block :: next :: blocks)
          = (Sid.transferData :: seq :: block) ::
              testerBlocks seqIncrement (seqIncrement seq) (next :: blocks) := rfl
        _ = (Sid.transferData :: seq :: block) ::
              testerBlocks nextBlockSequenceCounter (nextBlockSequenceCounter seq) (next :: blocks) := by
            rw [hrest, nextBlockSequenceCounter_of_ne hne]
        _ = testerBlocks nextBlockSequenceCounter seq (block :: next :: blocks) := rfl

/-! ## A block in step -/

theorem blockChecked_of_bytes {block : List UInt8} (hactive : h.transferActive = true)
    (hbytes : r.bytes = Sid.transferData :: h.blockSequenceCounter :: block) : BlockChecked h r where
  asks := by simp [Request.Asks, hbytes]
  length := by simp [hbytes]
  active := hactive
  counter := by simp [Request.byte, hbytes]

theorem blocks_stored {blocks : List (List UInt8)} (hactive : h.transferActive = true)
    (hc : Carries rs (testerBlocks nextBlockSequenceCounter h.blockSequenceCounter blocks))
    (hne : ∀ block ∈ blocks, 0 < block.length)
    (hend : h.transferAddress.toNat + h.transferReceived.toNat + blocks.flatten.length ≤ 2 ^ 32)
    (hcount : h.transferReceived.toNat + blocks.flatten.length < 2 ^ 32) :
    (∀ e ∈ (udsMachine calculateKey).trace h rs, positiveTo Sid.transferData e = true) ∧
    storedWrites ((udsMachine calculateKey).trace h rs) =
      endToEnd (h.transferAddress.toNat + h.transferReceived.toNat) blocks ∧
    ((udsMachine calculateKey).run h rs).transferActive = true ∧
    ((udsMachine calculateKey).run h rs).transferSize = h.transferSize ∧
    ((udsMachine calculateKey).run h rs).transferReceived.toNat =
      h.transferReceived.toNat + blocks.flatten.length := by
  induction blocks generalizing h rs with
  | nil =>
    obtain rfl : rs = [] := List.map_eq_nil_iff.mp hc.bytes
    exact ⟨fun e he => absurd he List.not_mem_nil, rfl, hactive, rfl, rfl⟩
  | cons block blocks ih =>
    rw [testerBlocks] at hc
    obtain ⟨r, rs, rfl⟩ := hc.nonempty
    obtain ⟨hbytes, hroom, hstatus, hc⟩ := hc.tail
    have hdata : r.bytes.drop 2 = block := by rw [hbytes]; rfl
    have hblock := hne block List.mem_cons_self
    rw [List.flatten_cons, List.length_append] at hend hcount ⊢
    have hchecked := blockChecked_of_bytes hactive hbytes
    have hstep := stepAt_of_process calculateKey (process_block hchecked hstatus)
    have hreceived : (receiveBlock h r).transferReceived.toNat =
        h.transferReceived.toNat + block.length := by
      rw [receiveBlock_received (by rw [hdata]; omega), hdata]
    have hpost : ((udsMachine calculateKey).step h r).1 = receiveBlock h r := congrArg (·.post) hstep
    -- the counter the handler expects next is the one the loop sends next
    have hnext : (receiveBlock h r).blockSequenceCounter =
        nextBlockSequenceCounter h.blockSequenceCounter := rfl
    obtain ⟨hpos, hwrites, hact, hsize, hrecv⟩ := @ih (receiveBlock h r) rs hactive (hnext ▸ hc)
      (fun b hb => hne b (List.mem_cons_of_mem _ hb))
      (by rw [hreceived]; exact (by omega : h.transferAddress.toNat +
            (h.transferReceived.toNat + block.length) + blocks.flatten.length ≤ 2 ^ 32))
      (by omega)
    rw [Machine.trace_cons, Machine.run_cons, hpost, hstep]
    refine ⟨?_, ?_, hact, hsize, by omega⟩
    · intro e he
      rcases List.mem_cons.mp he with rfl | he
      · exact positiveTo_block hchecked (by omega)
      · exact hpos e he
    · have haddress : (h.transferAddress + h.transferReceived).toNat =
          h.transferAddress.toNat + h.transferReceived.toNat := blockAddress_toNat (by omega)
      rw [← List.singleton_append, storedWrites_append, hwrites, storedWrites_block hstatus rfl, hdata,
        haddress, hreceived, endToEnd, List.singleton_append, Nat.add_assoc]
      rfl

/-! ## A block out of step -/

/-- Behind the block with counter `255` the `uint8_t` sends `0` where the handler expects `1`. -/
theorem wrapped_block_refused {block : List UInt8} (hactive : h.transferActive = true)
    (hexpects : h.blockSequenceCounter = 1) (hbytes : r.bytes = Sid.transferData :: 0 :: block) :
    ∀ sid, positiveTo sid ((udsMachine calculateKey).stepAt h r) = false := by
  have hasks : r.Asks Sid.transferData := by simp [Request.Asks, hbytes]
  have hzero : r.byte 1 = 0 := by simp [Request.byte, hbytes]
  have hcounter : r.byte 1 ≠ h.blockSequenceCounter := by
    rw [hzero, hexpects]
    decide
  have hlen : 2 ≤ r.bytes.length := by simp [hbytes]
  rw [stepAt_of_process _ (process_wrongCounter hasks hlen hactive hcounter)]
  intro sid
  by_cases hsid : sid = Sid.transferData
  · rw [hsid]
    exact positiveTo_negative (by simp [IsTransferSid]) rfl
  · exact positiveTo_of_other hasks (Ne.symm hsid)

/-- With a `uint8_t` counter, a block beyond the 255th is never answered positively. -/
theorem wrapped_block_reached {blocks : List (List UInt8)} {seq : UInt8} {back : List (List UInt8)}
    (hactive : h.transferActive = true) (hcounter : h.blockSequenceCounter = seq) (hseq : seq ≠ 0)
    (hlen : 256 < seq.toNat + blocks.length)
    (hc : Carries rs (testerBlocks seqIncrement seq blocks ++ back)) :
    ∃ e ∈ (udsMachine calculateKey).trace h rs, ∀ sid, positiveTo sid e = false := by
  induction blocks generalizing h rs seq with
  | nil =>
    have hlt := seq.toNat_lt
    rw [List.length_nil] at hlen
    omega
  | cons block blocks ih =>
    rw [testerBlocks, List.cons_append] at hc
    obtain ⟨r, rs, rfl⟩ := hc.nonempty
    obtain ⟨hbytes, hroom, hstatus, hc⟩ := hc.tail
    rw [List.length_cons] at hlen
    have hchecked := blockChecked_of_bytes hactive (hcounter ▸ hbytes)
    have hpost : ((udsMachine calculateKey).step h r).1 = receiveBlock h r :=
      congrArg Prod.fst (process_block hchecked hstatus)
    rw [Machine.trace_cons, hpost]
    by_cases hlast : seq + 1 = 0
    · -- this block carries 255: the next one is refused
      cases blocks with
      | nil =>
        have hlt := seq.toNat_lt
        rw [List.length_nil] at hlen
        omega
      | cons block' blocks =>
        rw [testerBlocks, List.cons_append] at hc
        obtain ⟨r', rs, rfl⟩ := hc.nonempty
        have hexpects : (receiveBlock h r).blockSequenceCounter = 1 := by
          rw [← hcounter] at hlast
          exact if_pos hlast
        have hwrapped : seqIncrement seq = 0 := hlast
        rw [hwrapped] at hc
        rw [Machine.trace_cons]
        refine ⟨_, List.mem_cons_of_mem _ List.mem_cons_self, ?_⟩
        exact wrapped_block_refused hactive hexpects hc.tail.1
    · have hnext : (receiveBlock h r).blockSequenceCounter = seqIncrement seq := by
        rw [← hcounter]
        exact nextBlockSequenceCounter_of_ne (hcounter ▸ hlast)
      have hsucc : (seqIncrement seq).toNat = seq.toNat + 1 := by
        have hlt := seq.toNat_lt
        have hadd : (seq + 1).toNat = (seq.toNat + 1) % 2 ^ 8 := by rw [UInt8.toNat_add]; rfl
        have hpos : (seq + 1).toNat ≠ 0 := fun hzero => hlast (UInt8.toNat_inj.mp hzero)
        unfold seqIncrement
        omega
      obtain ⟨e, he, hneg⟩ := @ih (receiveBlock h r) rs (seqIncrement seq) hactive hnext hlast
        (by omega) hc
      exact ⟨e, List.mem_cons_of_mem _ he, hneg⟩

/-! ## The whole loop -/

theorem openDownload_of_bytes {a n : UInt32}
    (hbytes : r.bytes = Sid.requestDownload :: 0x00 :: 0x44 :: (beBytes32 a ++ beBytes32 n))
    (hsession : h.session = .programming) (hsecurity : h.security = .unlocked) :
    DownloadChecked h r ∧ (openDownload h r).transferAddress = a ∧
      (openDownload h r).transferSize = n := by
  have hformat : r.byte 2 = 0x44 := by simp [Request.byte, hbytes]
  have haddr : addrBytes r = 4 := by rw [addrBytes, hformat]; decide
  have hsize : sizeBytes r = 4 := by rw [sizeBytes, hformat]; decide
  have hfields : addressField r = beBytes32 a ∧ sizeField r = beBytes32 n := by
    rw [addressField, sizeField, haddr, hsize, hbytes]
    exact ⟨rfl, rfl⟩
  refine ⟨⟨by simp [Request.Asks, hbytes], hsession, hsecurity, ?_⟩, ?_, ?_⟩
  · rw [haddr, hsize]
    simp [hbytes]
  · rw [← foldl_shiftIn_beBytes32 a, ← hfields.1]
    rfl
  · rw [← foldl_shiftIn_beBytes32 n, ← hfields.2]
    rfl

theorem tester_succeeds {a : UInt32} {b : ℕ} {image : List UInt8} {blocks : List (List UInt8)}
    {flash : Memory UInt8} (hsession : h.session = .programming) (hsecurity : h.security = .unlocked)
    (hn : image.length < 2 ^ 32) (hend : a.toNat + image.length ≤ 2 ^ 32) (hcut : IsCut b image blocks)
    (hc : Carries rs (testerRequests nextBlockSequenceCounter a blocks)) :
    TesterSucceeds calculateKey h flash a image rs := by
  have hflat := hcut.flatten
  rw [testerRequests] at hc
  obtain ⟨r, rs, rfl⟩ := hc.nonempty
  obtain ⟨hbytes, hroom, -, hc⟩ := hc.tail
  obtain ⟨bs, es, rfl, hblocks, hexit⟩ := hc.split
  obtain ⟨r', es, rfl⟩ := hexit.nonempty
  obtain ⟨hbytes', hroom', -, hexit⟩ := hexit.tail
  obtain rfl : es = [] := List.map_eq_nil_iff.mp hexit.bytes
  -- the download
  obtain ⟨hchecked, haddress, hsize⟩ := openDownload_of_bytes hbytes hsession hsecurity
  have hopen := stepAt_of_process calculateKey (process_download hchecked)
  have hpost : ((udsMachine calculateKey).step h r).1 = openDownload h r := congrArg (·.post) hopen
  -- the blocks
  have hzero : (openDownload h r).transferReceived.toNat = 0 := rfl
  obtain ⟨hpos, hwrites, hactive, hsame, hreceived⟩ :=
    @blocks_stored calculateKey (openDownload h r) bs blocks rfl hblocks
      (fun block hb => (hcut.sizes block hb).1)
      (by rw [hflat, haddress, hzero]; omega) (by rw [hflat, hzero]; omega)
  rw [hzero, hflat, Nat.zero_add] at hreceived
  rw [hzero, haddress, Nat.add_zero] at hwrites
  -- the exit
  set h' := (udsMachine calculateKey).run (openDownload h r) bs with hh'
  have hcomplete : h'.transferReceived = h'.transferSize := by
    apply UInt32.toNat_inj.mp
    rw [hreceived, hsame, hsize, hflat]
    exact (UInt32.toNat_ofNat_of_lt' hn).symm
  have hasks' : r'.Asks Sid.requestTransferExit := by simp [Request.Asks, hbytes']
  have hclose := stepAt_of_process calculateKey (process_exit hasks' hactive hcomplete)
  have htrace : (udsMachine calculateKey).trace h (r :: (bs ++ [r'])) =
      (udsMachine calculateKey).stepAt h r :: ((udsMachine calculateKey).trace (openDownload h r) bs ++
        [(udsMachine calculateKey).stepAt h' r']) := by
    rw [Machine.trace_cons, hpost, Machine.trace_concat]
  constructor
  · intro e he
    rw [htrace, hopen, hclose] at he
    rcases List.mem_cons.mp he with rfl | he
    · exact ⟨_, positiveTo_carriedOut hchecked.asks rfl hroom⟩
    rcases List.mem_append.mp he with he | he
    · exact ⟨_, hpos e he⟩
    · rw [List.mem_singleton.mp he]
      exact ⟨_, positiveTo_carriedOut hasks' rfl (le_trans (by decide) hroom')⟩
  · have hnone : storedWrites [(udsMachine calculateKey).stepAt h r] = [] ∧
        storedWrites [(udsMachine calculateKey).stepAt h' r'] = [] := by
      rw [hopen, hclose]
      exact ⟨rfl, rfl⟩
    rw [htrace, ← List.singleton_append, storedWrites_append, storedWrites_append, hnone.1, hnone.2,
      List.nil_append, List.append_nil, hwrites, storeAll_endToEnd, hflat, load_store]

theorem tester_fails {a : UInt32} {image : List UInt8} {blocks : List (List UInt8)}
    {flash : Memory UInt8} (hsession : h.session = .programming) (hsecurity : h.security = .unlocked)
    (hlen : 255 < blocks.length) (hc : Carries rs (testerRequests seqIncrement a blocks)) :
    ¬ TesterSucceeds calculateKey h flash a image rs := by
  rw [testerRequests] at hc
  obtain ⟨r, rs, rfl⟩ := hc.nonempty
  obtain ⟨hbytes, hroom, -, hc⟩ := hc.tail
  obtain ⟨hchecked, -, -⟩ := openDownload_of_bytes hbytes hsession hsecurity
  have hpost : ((udsMachine calculateKey).step h r).1 = openDownload h r :=
    congrArg Prod.fst (process_download hchecked)
  obtain ⟨e, he, hneg⟩ := @wrapped_block_reached calculateKey (openDownload h r) rs blocks 1 _ rfl rfl
    (by decide) (by simpa using by omega) hc
  intro hsucceeds
  obtain ⟨sid, hpos⟩ := hsucceeds.answered e (by
    rw [Machine.trace_cons, hpost]
    exact List.mem_cons_of_mem _ he)
  rw [hneg sid] at hpos
  cases hpos

/-- From the unlocked programming session, the documented loop installs an image exactly when it is
cut into at most 255 blocks; a loop whose counter goes from `255` to `1` installs every image. -/
theorem tester_succeeds_iff (h : UDSHandler) (flash : Memory UInt8) (a : UInt32) (b : ℕ)
    (image : List UInt8) (blocks : List (List UInt8)) (hsession : h.session = .programming)
    (hsecurity : h.security = .unlocked) (hn : image.length < 2 ^ 32)
    (hend : a.toNat + image.length ≤ 2 ^ 32) (hcut : IsCut b image blocks) :
    (∀ rs, Carries rs (testerRequests seqIncrement a blocks) →
      (TesterSucceeds calculateKey h flash a image rs ↔ blocks.length ≤ 255)) ∧
    ∀ rs, Carries rs (testerRequests nextBlockSequenceCounter a blocks) →
      TesterSucceeds calculateKey h flash a image rs := by
  refine ⟨?_, fun rs hc => tester_succeeds hsession hsecurity hn hend hcut hc⟩
  intro rs hc
  constructor
  · intro hsucceeds
    by_contra hmore
    exact tester_fails hsession hsecurity (by omega) hc hsucceeds
  · intro hfew
    have hagree : testerBlocks seqIncrement 1 blocks = testerBlocks nextBlockSequenceCounter 1 blocks :=
      testerBlocks_agree (by simpa using by omega)
    rw [testerRequests, hagree, ← testerRequests] at hc
    exact tester_succeeds hsession hsecurity hn hend hcut hc

/-! ## Two images -/

theorem carries_plainRequest (bytes : List (List UInt8)) : Carries (bytes.map plainRequest) bytes where
  bytes := by
    rw [List.map_map]
    exact List.map_id bytes
  room := by simp [plainRequest]
  stores := by simp [plainRequest]

def unlockedHandler : UDSHandler :=
  { udsHandlerInit with session := .programming, security := .unlocked }

theorem tester_succeeds_threeBytes :
    TesterSucceeds udsPlatformCalculateKey unlockedHandler (fun _ => 0xFF) 0x80020000 [0x5A, 0x5B, 0x5C]
      ((testerRequests seqIncrement 0x80020000 [[0x5A, 0x5B], [0x5C]]).map plainRequest) :=
  ((tester_succeeds_iff unlockedHandler _ 0x80020000 2 [0x5A, 0x5B, 0x5C] [[0x5A, 0x5B], [0x5C]]
    rfl rfl (by decide) (by decide) ⟨rfl, by decide⟩).1 _ (carries_plainRequest _)).mpr (by decide)

/-- 256 bytes in blocks of one byte. -/
theorem documentedLoop_fails : IsCut 1 (List.replicate 256 0x5A) (List.replicate 256 [0x5A]) ∧
    ¬ TesterSucceeds udsPlatformCalculateKey unlockedHandler (fun _ => 0xFF) 0x80020000
      (List.replicate 256 0x5A)
      ((testerRequests seqIncrement 0x80020000 (List.replicate 256 [0x5A])).map plainRequest) := by
  constructor
  · constructor
    · exact List.flatten_replicate_singleton
    · intro block hblock
      rw [List.eq_of_mem_replicate hblock]
      decide
  · exact tester_fails rfl rfl (by rw [List.length_replicate]; decide) (carries_plainRequest _)

end Mcus.Uds
