import AiSsd.Nvme.ByteDevice
import AiSsd.Storage.DriveBackend

/-!
# The drive answers as the file

In `nvme_qemu` mode every page crosses the link to the guest's daemon, a block in one exchange
and a batch in one. As long as the payloads fit the daemon's buffer and the device, the backend
answers there as it does over its backing file, and counts the same.
-/

namespace AiSsd.Storage

open Lib Numpy Nvme

universe u v w

/-! ## The client as a drive -/

section Client

variable {δ F : Type} {α : Type u} (g : Guest δ) (fl : FloatOps F)

/-- What `read` returns. -/
def replyBytes : Reply → Bytes
  | .data bytes => bytes
  | _ => []

/-- What `read_batch` returns, for the ids that were asked for. -/
def replyBlocks (blockIds : List Nat) : Reply → Dict Nat Bytes
  | .blocks results => blockIds.foldl
      (fun (found : Dict Nat Bytes) (bid : Nat) =>
        match results.get? bid with
        | none => found
        | some bytes => found.set bid bytes) Dict.empty
  | _ => Dict.empty

/-- What `compute_topk` returns. -/
def replyTopk (ofBits : Nat → α) : Reply → List (α × Nat × Nat)
  | .topk results => results.map fun item => (ofBits item.score, item.blockId, item.actualTokens)
  | _ => []

def batchRequest (request : Nat × Nat × Nat) : BatchRequest :=
  ⟨request.1, request.2.1, request.2.2⟩

/-- The client of the guest's daemon, with the bits of its floats. -/
def nvmeDrive (toBits : α → UInt32) (ofBits : Nat → α) : Drive (Link δ) α where
  toDevice := nvmeClient g fl
  read link length offset :=
    let r := call g fl link (.read offset length)
    (r.1.map replyBytes, r.2)
  readBatch link requests :=
    let r := call g fl link (.readBatch (requests.map batchRequest))
    (r.1.map (replyBlocks (requests.map fun request => request.2.2)), r.2)
  computeTopk link query candidates topK scale qHeads kvHeads headDim isFp16 :=
    let r := call g fl link (.computeTopk (query.flatten.map toBits)
      (candidates.map fun c => ⟨c.1, c.2.1, c.2.2.1, c.2.2.2⟩) topK (some (toBits scale)) qHeads
      kvHeads headDim isFp16)
    (r.1.map (replyTopk ofBits), r.2)
  resetStats link := link
  close link := { link with conn := .closed }

end Client

namespace DeviceBackend

open RealInferenceStorageBackend (Request Answer pack headsInBlock assignChannels coordinate
  decodeBlock)

variable {cfg : BackendConfig}

/-! ## Two backends alike -/

section Mirrors

variable {δ F ρ : Type} {α : Type u} {g : Guest δ} {fl : FloatOps F} {content : δ → ByteFile}
  {size : Nat} {link : Link δ} {f : DeviceBackend cfg ByteFile}

structure Holds (content : δ → ByteFile) (size : Nat) (link : Link δ) (file : ByteFile) : Prop where
  inFrame : InFrame link
  size_eq : (content link.daemon.guest).size = size
  bytes_eq : (content link.daemon.guest).pread file.size 0 = file.bytes

/-- An entry lies in the file, both pages together in one buffer. -/
structure Inside (n : Nat) (e : Entry cfg.channels) : Prop where
  vOffset_eq : e.vOffset = e.kOffset + e.kSize
  end_le : e.kOffset + e.kSize + e.vSize ≤ n
  buffer : e.kSize + e.vSize ≤ bufferSize

def Within (page : PageReader cfg ρ) : Prop :=
  ∀ n e, Inside n e → page.offset e + page.size e ≤ n ∧ page.size e ≤ bufferSize

theorem within_keyPages : Within (keyPages cfg) := by
  intro n e h
  have hend := h.end_le
  have hbuffer := h.buffer
  simp only [keyPages]
  omega

theorem within_valuePages : Within (valuePages cfg) := by
  intro n e h
  have hoffset := h.vOffset_eq
  have hend := h.end_le
  have hbuffer := h.buffer
  simp only [valuePages]
  omega

theorem within_blockPages : Within (blockPages cfg) := by
  intro n e h
  have hend := h.end_le
  have hbuffer := h.buffer
  simp only [blockPages]
  omega

def on (f : DeviceBackend cfg ByteFile) (link : Link δ) : DeviceBackend cfg (Link δ) :=
  ⟨f.storage, link, f.fileOffset, f.telemetry⟩

/-- The drive holds what the file does, which has room and ends where the backend writes on. -/
structure Mirrors (content : δ → ByteFile) (size : Nat) (link : Link δ)
    (f : DeviceBackend cfg ByteFile) : Prop where
  atEnd : f.fileOffset = f.device.size
  holds : Holds content size link f.device
  fits : f.device.size ≤ size
  inside : ∀ key e, f.storage.get? key = some e → Inside f.device.size e

/-- A call that left the tables alone, and the device as it was. -/
theorem Mirrors.moved (h : Mirrors content size link f) {link' : Link δ}
    (hlink : Holds content size link' f.device) (t : BackendTelemetry cfg.channels) :
    Mirrors content size link' { f with telemetry := t } where
  atEnd := h.atEnd
  holds := hlink
  fits := h.fits
  inside := h.inside

def Alike {ω : Type v} (content : δ → ByteFile) (size : Nat)
    (r : ω × DeviceBackend cfg (Link δ)) (r' : ω × DeviceBackend cfg ByteFile) : Prop :=
  ∃ link, r = (r'.1, r'.2.on link) ∧ Mirrors content size link r'.2

/-! ## What fits -/

variable (g) in
/-- The batch has distinct ids of 32 bits, and the daemon takes it. -/
def BatchFits (page : PageReader cfg ρ) (s : DeviceBackend cfg (Link δ)) (l : Nat)
    (bids : List Nat) : Prop :=
  cfg.enableBatching = true → bids.Nodup ∧ (∀ bid ∈ bids, bid < 2 ^ 32) ∧
    Accepted g s.device (.readBatch ((batchRequests page s l bids).map batchRequest))

variable (size) in
def WriteFits (s : DeviceBackend cfg (Link δ)) (k v : Payload) : Prop :=
  (pack cfg k).bytes.length + (pack cfg v).bytes.length ≤ bufferSize ∧
    s.fileOffset + ((pack cfg k).bytes.length + (pack cfg v).bytes.length) ≤ size

variable (g size) in
/-- The requests that the drive serves like the file. Top-k is scored on the device. -/
def Fits (s : DeviceBackend cfg (Link δ)) : Request α → Prop
  | .write _ _ k v _ _ => WriteFits size s k v
  | .other (.write _ _ k v _ _) => WriteFits size s (.array k) (.array v)
  | .other (.evict _ _) => True
  | .other (.readKeyPage _ _ _ _) => True
  | .other (.readValuePage _ _ _ _) => True
  | .other (.readBlock _ _ _ _) => True
  | .other (.readKeyPageBatch l bids _ _) => BatchFits g (keyPages cfg) s l bids
  | .other (.readValuePageBatch l bids _ _) => BatchFits g (valuePages cfg) s l bids
  | .other (.readBlockBatch l bids _ _) => BatchFits g (blockPages cfg) s l bids
  | .other (.computeTopkFilter _ _ _ _ _ _ _ _) => False

/-! ## One exchange -/

section Exchanges

variable (hdev : IsDevice g content) (hlimit : size < 2 ^ 64) (toBits : α → UInt32)
  (ofBits : Nat → α)

include hlimit in
theorem inDevice {link : Link δ} {file : ByteFile} (h : Holds content size link file)
    {length offset : Nat} (hinside : offset + length ≤ size) (hbuffer : length ≤ bufferSize) :
    InDevice (content link.daemon.guest).size offset length := by
  rw [h.size_eq]
  constructor <;> omega

theorem nvmeClient_write {link : Link δ} {data : Bytes} {offset : Nat} {n : Nat}
    (h : (call g fl link (.write offset data)).1 = .ok (.written n)) :
    (nvmeClient g fl).write link data offset =
      (.ok (), (call g fl link (.write offset data)).2) := by
  have hfield : ∀ write : Link δ → Bytes → Nat → Except PyErr Unit × Link δ,
      (Device.mk write).write = write := fun _ => rfl
  rw [nvmeClient, hfield]
  generalize call g fl link (.write offset data) = answer at h ⊢
  obtain ⟨result, link'⟩ := answer
  cases h
  rfl

include hdev hlimit

theorem read_of_holds {link : Link δ} {file : ByteFile} (h : Holds content size link file)
    (hfits : file.size ≤ size) {length offset : Nat} (hinside : offset + length ≤ file.size)
    (hbuffer : length ≤ bufferSize) :
    ∃ link', (nvmeDrive g fl toBits ofBits).read link length offset =
        (.ok (file.pread length offset), link') ∧ Holds content size link' file := by
  have hacts := @actsOn_read δ F g fl content hdev link h.inFrame offset length
    (inDevice hlimit h (by omega) hbuffer)
  obtain ⟨hanswer, hframe, hcontent⟩ := hacts
  simp only [DeviceCall.Answers, DeviceCall.call, DeviceCall.apply, Int.toNat_natCast]
    at hanswer hframe hcontent
  refine ⟨(call g fl link (.read offset length)).2, ?_, hframe, ?_, ?_⟩
  · dsimp only [nvmeDrive]
    rw [hanswer, ← ByteFile.pread_of_start h.bytes_eq hinside]
    rfl
  · rw [hcontent, h.size_eq]
  · rw [hcontent, h.bytes_eq]

theorem write_of_holds {link : Link δ} {file : ByteFile} (h : Holds content size link file)
    {data : Bytes} (hfits : file.size + data.length ≤ size) (hbuffer : data.length ≤ bufferSize) :
    ∃ link', (nvmeDrive g fl toBits ofBits).write link data file.size = (.ok (), link') ∧
      Holds content size link' (file.pwrite data file.size) := by
  -- the offset stays a variable, so that nothing evaluates the request
  obtain ⟨offset, hoffset⟩ : ∃ offset : Int, offset = file.size := ⟨_, rfl⟩
  have hdomain := inDevice hlimit h hfits hbuffer
  rw [← hoffset] at hdomain
  obtain ⟨hanswer, hframe, hcontent⟩ := @actsOn_write δ F g fl content hdev link h.inFrame offset
    data hdomain
  have hroom : file.size + data.length ≤ (content link.daemon.guest).size := by
    rw [h.size_eq]
    exact hfits
  have hbytes : content (call g fl link (.write offset data)).2.daemon.guest =
      (content link.daemon.guest).pwrite data file.size := by
    have hat : offset.toNat = file.size := by rw [hoffset, Int.toNat_natCast]
    rw [← hat]
    exact hcontent
  refine ⟨(call g fl link (.write offset data)).2, ?_, hframe, ?_, ?_⟩
  · have hwritten : (call g fl link (.write offset data)).1 = .ok (.written data.length) := hanswer
    have hdevice : (nvmeDrive g fl toBits ofBits).toDevice = nvmeClient g fl := rfl
    rw [hoffset] at hwritten
    rw [hdevice, hoffset, nvmeClient_write hwritten]
  · rw [hbytes, ByteFile.size_pwrite_inside _ _ _ hroom, h.size_eq]
  · rw [hbytes, ByteFile.size_pwrite_end, ByteFile.pread_add, Nat.zero_add,
      ByteFile.pread_pwrite_self, ByteFile.pread_pwrite_below _ _ (by omega) (by omega), h.bytes_eq,
      ByteFile.bytes_pwrite_end]

omit hdev hlimit in
theorem get?_replyBlocks {results : Dict Int Bytes} {bid : Nat} {bytes : Bytes}
    (h : results.get? bid = some bytes) {blockIds : List Nat} (hasked : bid ∈ blockIds) :
    (replyBlocks blockIds (.blocks results)).get? bid = some bytes := by
  have hcollect : ∀ (bids : List Nat) (found : Dict Nat Bytes),
      bid ∈ bids ∨ found.get? bid = some bytes →
      (bids.foldl (fun (found : Dict Nat Bytes) (bid : Nat) =>
        match results.get? bid with
        | none => found
        | some bytes => found.set bid bytes) found).get? bid = some bytes := by
    intro bids
    induction bids with
    | nil => exact fun found hfound => hfound.resolve_left List.not_mem_nil
    | cons b bids ih =>
        intro found hfound
        rw [List.foldl_cons]
        apply ih
        by_cases hb : b = bid
        · rw [hb, h]
          exact Or.inr (Dict.get?_set_self _ _ _)
        · rcases hfound with hmem | hheld
          · exact Or.inl (List.mem_of_ne_of_mem (Ne.symm hb) hmem)
          · right
            cases results.get? (b : Int) with
            | none => exact hheld
            | some other => rw [Dict.get?_set_of_ne _ _ hb, hheld]
  exact hcollect blockIds Dict.empty (Or.inl hasked)

theorem readBatch_of_holds {link : Link δ} {file : ByteFile} (h : Holds content size link file)
    (hfits : file.size ≤ size) {requests : List (Nat × Nat × Nat)}
    (hinside : ∀ r ∈ requests, r.1 + r.2.1 ≤ file.size ∧ r.2.1 ≤ bufferSize ∧ r.2.2 < 2 ^ 32)
    (hnodup : (requests.map fun r => r.2.2).Nodup)
    (haccepted : Accepted g link (.readBatch (requests.map batchRequest))) :
    ∃ found link', (nvmeDrive g fl toBits ofBits).readBatch link requests = (.ok found, link') ∧
      Holds content size link' file ∧
      ∀ r ∈ requests, found.get? r.2.2 = some (file.pread r.2.1 r.1) := by
  have hdomain : (DeviceCall.readBatch (requests.map batchRequest)).InDomain
      (content link.daemon.guest).size := by
    constructor
    · intro r hr
      obtain ⟨request, hrequest, rfl⟩ := List.mem_map.mp hr
      obtain ⟨hin, hbuffer, hbid⟩ := hinside request hrequest
      refine ⟨inDevice hlimit h (by omega) hbuffer, ?_, ?_⟩ <;> simp only [batchRequest] <;> omega
    · have hids : (requests.map batchRequest).map BatchRequest.blockId =
          (requests.map fun r => r.2.2).map fun bid : Nat => (bid : Int) := by
        simp only [List.map_map, Function.comp_def, batchRequest]
      rw [hids]
      exact hnodup.map fun a b => Int.ofNat_inj.mp
  obtain ⟨⟨results, hanswer, hfound, -⟩, hframe, hcontent⟩ :=
    @actsOn_readBatch δ F g fl content hdev link h.inFrame _ hdomain haccepted
  refine ⟨replyBlocks (requests.map fun r => r.2.2) (.blocks results),
    (call g fl link (.readBatch (requests.map batchRequest))).2, ?_, ⟨hframe, ?_, ?_⟩, ?_⟩
  · have hblocks : (call g fl link (.readBatch (requests.map batchRequest))).1 =
        .ok (.blocks results) := hanswer
    dsimp only [nvmeDrive]
    rw [hblocks]
    rfl
  · have hsame : content (call g fl link (.readBatch (requests.map batchRequest))).2.daemon.guest =
        content link.daemon.guest := hcontent
    rw [hsame, h.size_eq]
  · have hsame : content (call g fl link (.readBatch (requests.map batchRequest))).2.daemon.guest =
        content link.daemon.guest := hcontent
    rw [hsame, h.bytes_eq]
  · intro r hr
    obtain ⟨hin, -, -⟩ := hinside r hr
    have hextent := hfound (batchRequest r) (List.mem_map_of_mem hr)
    apply get?_replyBlocks _ (List.mem_map_of_mem hr)
    rw [← ByteFile.pread_of_start h.bytes_eq hin]
    exact hextent

/-! ## Single reads -/

theorem fetchSpan_of_holds {page : PageReader cfg ρ} (hpage : Within page) {link : Link δ}
    {file : ByteFile} (h : Holds content size link file) (hfits : file.size ≤ size)
    {entry : Option (Entry cfg.channels)} (hentry : ∀ e, entry = some e → Inside file.size e) :
    ∃ link', fetchSpan (nvmeDrive g fl toBits ofBits) page link entry =
        ((fetchSpan (backingDrive α) page file entry).1, link') ∧ Holds content size link' file := by
  cases entry with
  | none => exact ⟨link, rfl, h⟩
  | some e =>
      obtain ⟨hin, hbuffer⟩ := hpage file.size e (hentry e rfl)
      obtain ⟨link', hread, hlink⟩ := read_of_holds hdev hlimit toBits ofBits h hfits hin hbuffer
      refine ⟨link', ?_, hlink⟩
      rw [fetchSpan, hread]
      rfl

/-- `read_block` reads both pages at once from the drive, and one after the other from the file. -/
theorem fetchBlock_of_holds {link : Link δ} {file : ByteFile} (h : Holds content size link file)
    (hfits : file.size ≤ size) {entry : Option (Entry cfg.channels)}
    (hentry : ∀ e, entry = some e → Inside file.size e) :
    ∃ link', fetchBlock (nvmeDrive g fl toBits ofBits) .nvmeQemu link entry =
        ((fetchBlock (backingDrive α) .file file entry).1, link') ∧
      Holds content size link' file := by
  obtain ⟨link', hfetch, hlink⟩ := fetchSpan_of_holds hdev hlimit toBits ofBits
    within_blockPages h hfits hentry
  refine ⟨link', ?_, hlink⟩
  rw [fetchBlock, hfetch]
  congr 1
  cases entry with
  | none => rfl
  | some e =>
      have hspan : (fetchSpan (backingDrive α) (blockPages cfg) file (some e)).1 =
          decodeBlock e ((file.pread (e.kSize + e.vSize) e.kOffset).take e.kSize)
            (((file.pread (e.kSize + e.vSize) e.kOffset).take (e.kSize + e.vSize)).drop e.kSize) :=
        rfl
      have hpages : (fetchBlock (backingDrive α) .file file (some e)).1 =
          decodeBlock e (file.pread e.kSize e.kOffset) (file.pread e.vSize e.vOffset) := rfl
      rw [hspan, hpages, ByteFile.pread_take _ _ (Nat.le_add_right _ _),
        ByteFile.pread_take _ _ (Nat.le_refl _), ByteFile.pread_drop, (hentry e rfl).vOffset_eq]

omit hdev hlimit in
/-- What the single reads share: the fetch is the only thing that the modes differ in. -/
theorem readSingle_alike {kind : ReadKind}
    {fetch : Link δ → Option (Entry cfg.channels) → Except PyErr (ρ × Nat) × Link δ}
    {fetch' : ByteFile → Option (Entry cfg.channels) → Except PyErr (ρ × Nat) × ByteFile}
    (hfile : ∀ file entry, (fetch' file entry).2 = file)
    (hfetch : ∀ link file entry, Holds content size link file → file.size ≤ size →
      (∀ e, entry = some e → Inside file.size e) →
      ∃ link', fetch link entry = ((fetch' file entry).1, link') ∧ Holds content size link' file)
    (h : Mirrors content size link f) (l b head ts : Nat) :
    Alike content size (readSingle kind fetch (f.on link) l b head ts)
      (readSingle kind fetch' f l b head ts) := by
  unfold readSingle lookUp on
  dsimp only
  cases cfg.mapper.tensorToNandPhysical (coordinate cfg l b head ts) cfg.mappingMode none with
  | error err => exact ⟨link, rfl, h⟩
  | ok nand =>
      obtain ⟨link', hanswer, hlink⟩ :=
        hfetch link f.device (f.storage.get? (l, b)) h.holds h.fits (h.inside (l, b))
      have hsame := hfile f.device (f.storage.get? (l, b))
      dsimp only
      rw [hanswer]
      revert hsame
      rcases fetch' f.device (f.storage.get? (l, b)) with ⟨_ | ⟨ret, bytes⟩, file⟩
      · rintro rfl
        exact ⟨link', rfl, h.moved hlink f.telemetry⟩
      · rintro rfl
        exact ⟨link', rfl, h.moved hlink _⟩

/-! ## Batches -/

omit hdev hlimit in
theorem readEach_alike {read : DeviceBackend cfg (Link δ) → Nat →
      Except PyErr ρ × DeviceBackend cfg (Link δ)}
    {read' : DeviceBackend cfg ByteFile → Nat → Except PyErr ρ × DeviceBackend cfg ByteFile}
    (hread : ∀ link f b, Mirrors content size link f →
      Alike content size (read (f.on link) b) (read' f b))
    (bids : List Nat) (results : Dict Nat ρ) (h : Mirrors content size link f) :
    Alike content size (readEach read bids results (f.on link)) (readEach read' bids results f) := by
  induction bids generalizing results link f with
  | nil => exact ⟨link, rfl, h⟩
  | cons bid bids ih =>
      obtain ⟨link', hone, hmirrors⟩ := hread link f bid h
      unfold readEach
      rw [hone]
      revert hmirrors
      rcases read' f bid with ⟨_ | ret, f'⟩
      · exact fun hmirrors => ⟨link', rfl, hmirrors⟩
      · exact fun hmirrors => ih (results.set bid ret) hmirrors

omit hdev hlimit in
theorem batchLoop_found (page : PageReader cfg ρ) {found : Dict Nat Bytes} (l : Nat)
    {bids : List Nat} (hfound : ∀ bid ∈ bids, ∀ e, f.storage.get? (l, bid) = some e →
      found.get? bid = some (f.device.pread (page.size e) (page.offset e)))
    (link' : Link δ) (results : Dict Nat ρ) (total : Nat) (t : BackendTelemetry cfg.channels) :
    ∃ answer t', batchLoop page
        (fun device bid _ => (.ok ((found.get? bid).getD []), device)) (f.on link) l bids results
        total t link' = (answer, t', link') ∧
      batchLoop page
        (fun device _ e => (backingDrive α).read device (page.size e) (page.offset e)) f l bids
        results total t f.device = (answer, t', f.device) := by
  induction bids generalizing results total t with
  | nil => exact ⟨_, _, rfl, rfl⟩
  | cons bid bids ih =>
      rw [List.forall_mem_cons] at hfound
      unfold batchLoop on
      dsimp only
      cases hentry : f.storage.get? (l, bid) with
      | none => exact ih hfound.2 _ _ _
      | some e =>
          have hread : (backingDrive α).read f.device (page.size e) (page.offset e) =
              (.ok (f.device.pread (page.size e) (page.offset e)), f.device) := rfl
          dsimp only
          rw [hread, hfound.1 e hentry, Option.getD_some]
          dsimp only
          cases page.decode e (f.device.pread (page.size e) (page.offset e)) with
          | error err => exact ⟨_, _, rfl, rfl⟩
          | ok r => exact ih hfound.2 _ _ _

omit hdev hlimit in
theorem mem_batchRequests {page : PageReader cfg ρ} {s : DeviceBackend cfg (Link δ)} {l bid : Nat}
    {bids : List Nat} (hbid : bid ∈ bids) {e : Entry cfg.channels}
    (hentry : s.storage.get? (l, bid) = some e) :
    (page.offset e, page.size e, bid) ∈ batchRequests page s l bids := by
  apply List.mem_filterMap.mpr
  exact ⟨bid, hbid, by rw [hentry, Option.map_some]⟩

omit hdev hlimit in
theorem sublist_batchRequests (page : PageReader cfg ρ) (s : DeviceBackend cfg (Link δ)) (l : Nat)
    (bids : List Nat) : ((batchRequests page s l bids).map fun r => r.2.2).Sublist bids := by
  unfold batchRequests
  rw [List.map_filterMap]
  induction bids with
  | nil => exact List.Sublist.slnil
  | cons bid bids ih =>
      rw [List.filterMap_cons]
      cases s.storage.get? (l, bid) with
      | none => exact ih.cons bid
      | some e => exact ih.cons_cons bid

theorem transaction_alike {page : PageReader cfg ρ} (hpage : Within page)
    (h : Mirrors content size link f) {l : Nat} {bids : List Nat}
    (hbatching : cfg.enableBatching = true) (hbatch : BatchFits g page (f.on link) l bids) :
    ∃ answer t link', transaction (nvmeDrive g fl toBits ofBits) .nvmeQemu page (f.on link) l bids =
        (answer, t, link') ∧
      transaction (backingDrive α) .file page f l bids = (answer, t, f.device) ∧
      Holds content size link' f.device := by
  obtain ⟨hnodup, hids, haccepted⟩ := hbatch hbatching
  have hrequests : ∀ r ∈ batchRequests page (f.on link) l bids,
      r.1 + r.2.1 ≤ f.device.size ∧ r.2.1 ≤ bufferSize ∧ r.2.2 < 2 ^ 32 := by
    intro r hr
    obtain ⟨bid, hbid, hsome⟩ := List.mem_filterMap.mp hr
    obtain ⟨e, hentry, rfl⟩ := Option.map_eq_some_iff.mp hsome
    obtain ⟨hin, hbuffer⟩ := hpage f.device.size e (h.inside (l, bid) e hentry)
    exact ⟨hin, hbuffer, hids bid hbid⟩
  have hdistinct : ((batchRequests page (f.on link) l bids).map fun r => r.2.2).Nodup :=
    hnodup.sublist (sublist_batchRequests page (f.on link) l bids)
  by_cases hnone : batchRequests page (f.on link) l bids = []
  · obtain ⟨answer, t, hleft, hright⟩ := @batchLoop_found cfg δ ρ α link f page Dict.empty l bids
      (fun bid hbid e hentry => by
        have hmem := @mem_batchRequests cfg δ ρ page (f.on link) l bid bids hbid e hentry
        rw [hnone] at hmem
        cases hmem) link Dict.empty 0 f.telemetry
    refine ⟨answer, t, link, ?_, hright, h.holds⟩
    unfold transaction
    dsimp only
    rw [if_pos hnone]
    exact hleft
  · obtain ⟨found, link', hread, hlink, hfound⟩ := readBatch_of_holds hdev hlimit toBits ofBits
      h.holds h.fits hrequests hdistinct haccepted
    obtain ⟨answer, t, hleft, hright⟩ := @batchLoop_found cfg δ ρ α link f page found l bids
      (fun bid hbid e hentry =>
        hfound _ (@mem_batchRequests cfg δ ρ page (f.on link) l bid bids hbid e hentry))
      link' Dict.empty 0 f.telemetry
    refine ⟨answer, t, link', ?_, hright, hlink⟩
    have hdevice : (f.on link).device = link := rfl
    unfold transaction
    dsimp only
    rw [if_neg hnone, hdevice, hread]
    exact hleft

theorem readBatch_alike {page : PageReader cfg ρ} (hpage : Within page)
    {single : DeviceBackend cfg (Link δ) → (layerIdx blockId headId tokenStart : Nat) →
      Except PyErr ρ × DeviceBackend cfg (Link δ)}
    {single' : DeviceBackend cfg ByteFile → (layerIdx blockId headId tokenStart : Nat) →
      Except PyErr ρ × DeviceBackend cfg ByteFile}
    (hsingle : ∀ link f l b head ts, Mirrors content size link f →
      Alike content size (single (f.on link) l b head ts) (single' f l b head ts))
    (h : Mirrors content size link f) {l : Nat} {bids : List Nat} (head ts : Nat)
    (hbatch : BatchFits g page (f.on link) l bids) :
    Alike content size
      (readBatch (nvmeDrive g fl toBits ofBits) .nvmeQemu page single (f.on link) l bids head ts)
      (readBatch (backingDrive α) .file page single' f l bids head ts) := by
  unfold readBatch
  by_cases hnil : bids = []
  · rw [if_pos hnil, if_pos hnil]
    exact ⟨link, rfl, h⟩
  · rw [if_neg hnil, if_neg hnil]
    by_cases hbatching : cfg.enableBatching = false
    · rw [if_pos hbatching, if_pos hbatching]
      exact readEach_alike (fun link f b => hsingle link f l b head ts) bids Dict.empty h
    · rw [if_neg hbatching, if_neg hbatching]
      obtain ⟨answer, t, link', hleft, hright, hlink⟩ := @transaction_alike cfg δ F ρ α g fl content
        size link f hdev hlimit toBits ofBits page hpage h l bids (by simpa using hbatching) hbatch
      rw [hleft, hright]
      rcases answer with _ | ⟨results, totalBytes⟩
      · exact ⟨link', rfl, h.moved hlink t⟩
      · exact ⟨link', rfl, h.moved hlink _⟩

/-! ## Writes and evictions -/

omit hdev hlimit in
theorem Inside.mono {n m : Nat} {e : Entry cfg.channels} (h : Inside n e) (hle : n ≤ m) :
    Inside m e :=
  ⟨h.vOffset_eq, Nat.le_trans h.end_le hle, h.buffer⟩

omit hdev hlimit in
theorem writePages_drive (dev : Device (Link δ)) (link : Link δ) (kBytes vBytes : Bytes)
    (offset : Nat) :
    writePages dev .nvmeQemu link kBytes vBytes offset = dev.write link (kBytes ++ vBytes) offset :=
  rfl

/-- A block goes to the drive in one write, and to the file in two. -/
theorem writePages_alike (h : Mirrors content size link f) {kBytes vBytes : Bytes}
    (hbuffer : kBytes.length + vBytes.length ≤ bufferSize)
    (hroom : f.fileOffset + (kBytes.length + vBytes.length) ≤ size) :
    ∃ link' file, writePages (nvmeDrive g fl toBits ofBits).toDevice .nvmeQemu link kBytes vBytes
        f.fileOffset = (.ok (), link') ∧
      writePages (backingDrive α).toDevice .file f.device kBytes vBytes f.fileOffset =
        (.ok (), file) ∧
      Holds content size link' file ∧
      file.size = f.fileOffset + (kBytes.length + vBytes.length) := by
  rw [h.atEnd] at hroom ⊢
  rw [← List.length_append] at hbuffer hroom ⊢
  obtain ⟨link', hwrite, hlink⟩ := write_of_holds hdev hlimit toBits ofBits h.holds hroom hbuffer
  have hfiles : (f.device.pwrite kBytes f.device.size).pwrite vBytes
      (f.device.size + kBytes.length) = f.device.pwrite (kBytes ++ vBytes) f.device.size := by
    apply ByteFile.ext_bytes
    rw [← ByteFile.size_pwrite_end, ByteFile.bytes_pwrite_end, ByteFile.bytes_pwrite_end,
      ByteFile.bytes_pwrite_end, List.append_assoc]
  refine ⟨link', f.device.pwrite (kBytes ++ vBytes) f.device.size, ?_, ?_, hlink,
    ByteFile.size_pwrite_end _ _⟩
  · rw [writePages_drive, hwrite]
  · rw [← hfiles]
    rfl

omit hdev hlimit in
/-- Two devices that take the pages alike. -/
theorem writeBlock_of_pages {dev : Device (Link δ)} {dev' : Device ByteFile}
    (h : Mirrors content size link f) {k v : Payload} (hfits : WriteFits size (f.on link) k v)
    (hpages : ∃ link' file,
      writePages dev .nvmeQemu link (pack cfg k).bytes (pack cfg v).bytes f.fileOffset =
        (.ok (), link') ∧
      writePages dev' .file f.device (pack cfg k).bytes (pack cfg v).bytes f.fileOffset =
        (.ok (), file) ∧
      Holds content size link' file ∧
      file.size = f.fileOffset + ((pack cfg k).bytes.length + (pack cfg v).bytes.length))
    (l b head ts : Nat) :
    Alike content size (writeBlock dev .nvmeQemu (f.on link) l b k v head ts)
      (writeBlock dev' .file f l b k v head ts) := by
  obtain ⟨hbuffer, hroom⟩ := hfits
  obtain ⟨link', file, hdrive, hfile, hlink, hsize⟩ := hpages
  unfold writeBlock on
  dsimp only
  rcases assignChannels l b head ts
    (((pack cfg k).bytes.length + (pack cfg v).bytes.length) / headsInBlock k)
    (List.range (headsInBlock k)) f.telemetry with ⟨_ | assigned, t⟩
  · exact ⟨link, rfl, h.moved h.holds t⟩
  · dsimp only
    cases cfg.mapper.tensorToLba ⟨l, head, ts, 16, some b, 44⟩ cfg.mappingMode with
    | error err => exact ⟨link, rfl, h.moved h.holds t⟩
    | ok lbaAddr =>
        dsimp only
        rw [hdrive, hfile]
        have hgrown : f.device.size ≤ file.size := by
          rw [hsize, ← h.atEnd]
          exact Nat.le_add_right _ _
        refine ⟨link', rfl, ⟨hsize.symm, hlink, ?_, ?_⟩⟩
        · show file.size ≤ size
          rw [hsize]
          exact hroom
        · intro key e hget
          rw [Dict.get?_set] at hget
          split at hget
          · cases hget
            exact ⟨rfl, Nat.le_of_eq ((Nat.add_assoc _ _ _).trans hsize.symm), hbuffer⟩
          · exact (h.inside key e hget).mono hgrown

theorem writeBlock_alike (h : Mirrors content size link f) {k v : Payload}
    (hfits : WriteFits size (f.on link) k v) (l b head ts : Nat) :
    Alike content size
      (writeBlock (nvmeDrive g fl toBits ofBits).toDevice .nvmeQemu (f.on link) l b k v head ts)
      (writeBlock (backingDrive α).toDevice .file f l b k v head ts) :=
  writeBlock_of_pages h hfits
    (writePages_alike hdev hlimit toBits ofBits h hfits.1 hfits.2) l b head ts

omit hdev hlimit in
theorem evictBlock_alike (h : Mirrors content size link f) (l b : Nat) :
    Alike content size (evictBlock (f.on link) l b) (evictBlock f l b) := by
  unfold evictBlock on
  dsimp only
  by_cases hstored : f.storage.contains (l, b) = true
  · rw [if_pos hstored, if_pos hstored]
    refine ⟨link, rfl, ⟨h.atEnd, h.holds, h.fits, ?_⟩⟩
    intro key e hget
    rw [Dict.get?_erase] at hget
    split at hget
    · cases hget
    · exact h.inside key e hget
  · rw [if_neg hstored, if_neg hstored]
    exact ⟨link, rfl, h⟩

/-! ## Requests -/

omit hdev hlimit in
theorem Alike.map {ω : Type v} {ω' : Type w} {r : Except PyErr ω × DeviceBackend cfg (Link δ)}
    {r' : Except PyErr ω × DeviceBackend cfg ByteFile} (h : Alike content size r r')
    (wrap : ω → ω') :
    Alike content size (r.1.map wrap, r.2) (r'.1.map wrap, r'.2) := by
  obtain ⟨link, rfl, hmirrors⟩ := h
  exact ⟨link, rfl, hmirrors⟩

end Exchanges

section Runs

variable [Field α] [LinearOrder α]

variable (cfg) in
def server {τ : Type} (D : Drive τ α) (mode : StorageMode) (dtype : String)
    (val : DType → Bytes → α) (kernel : Option (Kernel α)) :
    Machine (DeviceBackend cfg τ) (Request α) (Except PyErr (Answer α)) where
  step := serve D mode dtype val kernel

variable (hdev : IsDevice g content) (hlimit : size < 2 ^ 64) (toBits : α → UInt32)
  (ofBits : Nat → α) (dtype : String) (val : DType → Bytes → α) (kernel : Option (Kernel α))

include hdev hlimit

theorem serve_alike (h : Mirrors content size link f) {request : Request α}
    (hfits : Fits g size (f.on link) request) :
    Alike content size
      (serve (nvmeDrive g fl toBits ofBits) .nvmeQemu dtype val kernel (f.on link) request)
      (serve (backingDrive α) .file dtype val kernel f request) := by
  have hkey : ∀ (link : Link δ) (f : DeviceBackend cfg ByteFile) l b head ts,
      Mirrors content size link f →
      Alike content size (readKeyPage (nvmeDrive g fl toBits ofBits) (f.on link) l b head ts)
        (readKeyPage (backingDrive α) f l b head ts) :=
    fun link f l b head ts h => readSingle_alike
      (fun file entry => congrArg Prod.snd (fetchSpan_keyPages file entry))
      (fun _ _ _ hlink hfits hentry =>
        fetchSpan_of_holds hdev hlimit toBits ofBits within_keyPages hlink hfits hentry) h l b head ts
  have hvalue : ∀ (link : Link δ) (f : DeviceBackend cfg ByteFile) l b head ts,
      Mirrors content size link f →
      Alike content size (readValuePage (nvmeDrive g fl toBits ofBits) (f.on link) l b head ts)
        (readValuePage (backingDrive α) f l b head ts) :=
    fun link f l b head ts h => readSingle_alike
      (fun file entry => congrArg Prod.snd (fetchSpan_valuePages file entry))
      (fun _ _ _ hlink hfits hentry =>
        fetchSpan_of_holds hdev hlimit toBits ofBits within_valuePages hlink hfits hentry)
      h l b head ts
  have hblock : ∀ (link : Link δ) (f : DeviceBackend cfg ByteFile) l b head ts,
      Mirrors content size link f →
      Alike content size
        (readBlock (nvmeDrive g fl toBits ofBits) .nvmeQemu (f.on link) l b head ts)
        (readBlock (backingDrive α) .file f l b head ts) :=
    fun link f l b head ts h => readSingle_alike
      (fun file entry => congrArg Prod.snd (fetchBlock_file file entry))
      (fun _ _ _ hlink hfits hentry =>
        fetchBlock_of_holds hdev hlimit toBits ofBits hlink hfits hentry) h l b head ts
  cases request with
  | write l b k v head ts =>
      exact (writeBlock_alike hdev hlimit toBits ofBits h hfits l b head ts).map
        fun _ => Answer.done
  | other op =>
      cases op with
      | write l b k v head ts =>
          exact (writeBlock_alike hdev hlimit toBits ofBits h hfits l b head ts).map
            fun _ => Answer.done
      | evict l b =>
          obtain ⟨link', hevict, hmirrors⟩ := evictBlock_alike h l b
          refine ⟨link', ?_, hmirrors⟩
          show (Except.ok (Answer.evicted (evictBlock (f.on link) l b).1), _) = _
          rw [hevict]
          rfl
      | readKeyPage l b head ts => exact (hkey link f l b head ts h).map Answer.page
      | readValuePage l b head ts => exact (hvalue link f l b head ts h).map Answer.page
      | readBlock l b head ts => exact (hblock link f l b head ts h).map Answer.block
      | readKeyPageBatch l bids head ts =>
          exact (readBatch_alike hdev hlimit toBits ofBits within_keyPages hkey h head ts
            hfits).map Answer.pages
      | readValuePageBatch l bids head ts =>
          exact (readBatch_alike hdev hlimit toBits ofBits within_valuePages hvalue h head ts
            hfits).map Answer.pages
      | readBlockBatch l bids head ts =>
          exact (readBatch_alike hdev hlimit toBits ofBits within_blockPages hblock h head ts
            hfits).map Answer.blocks
      | computeTopkFilter l cands query topK scale qHeads kvHeads headDim => exact hfits.elim

theorem run_alike (h : Mirrors content size link f) {requests : List (Request α)}
    (hfits : (server cfg (nvmeDrive g fl toBits ofBits) .nvmeQemu dtype val kernel).Meets
      (Fits g size) (f.on link) requests) :
    (server cfg (nvmeDrive g fl toBits ofBits) .nvmeQemu dtype val kernel).trace (f.on link)
        requests = (server cfg (backingDrive α) .file dtype val kernel).trace f requests ∧
      ∃ link', (server cfg (nvmeDrive g fl toBits ofBits) .nvmeQemu dtype val kernel).exec
          (f.on link) requests =
        ((server cfg (backingDrive α) .file dtype val kernel).exec f requests).on link' := by
  induction requests generalizing link f with
  | nil => exact ⟨rfl, link, rfl⟩
  | cons request requests ih =>
      obtain ⟨hone, hrest⟩ := hfits
      obtain ⟨link', hserve, hmirrors⟩ :=
        @serve_alike cfg δ F α g fl content size link f _ _ hdev hlimit toBits ofBits dtype val kernel h
          request hone
      have hstep : (server cfg (nvmeDrive g fl toBits ofBits) .nvmeQemu dtype val kernel).step
          (f.on link) request = _ := hserve
      rw [hstep] at hrest
      obtain ⟨htrace, hexec⟩ := ih hmirrors hrest
      rw [Machine.exec_cons, Machine.trace, Machine.trace, hstep, htrace]
      exact ⟨rfl, hexec⟩

omit hdev hlimit in
theorem server_overFile (s : RealInferenceStorageBackend cfg) (requests : List (Request α)) :
    (server cfg (backingDrive α) .file dtype val kernel).trace s.overFile requests =
        (RealInferenceStorageBackend.server cfg val kernel).trace s requests ∧
      (server cfg (backingDrive α) .file dtype val kernel).exec s.overFile requests =
        ((RealInferenceStorageBackend.server cfg val kernel).exec s requests).overFile := by
  induction requests generalizing s with
  | nil => exact ⟨rfl, rfl⟩
  | cons request requests ih =>
      have hstep : (server cfg (backingDrive α) .file dtype val kernel).step s.overFile request =
          ((RealInferenceStorageBackend.serve cfg val kernel s request).1,
            (RealInferenceStorageBackend.serve cfg val kernel s request).2.overFile) :=
        serve_overFile s dtype val kernel request
      obtain ⟨htrace, hexec⟩ := ih (RealInferenceStorageBackend.serve cfg val kernel s request).2
      rw [Machine.exec_cons, Machine.trace, Machine.trace, hstep, htrace]
      exact ⟨rfl, hexec⟩

end Runs

end Mirrors

/-- Over a guest whose device is a file of bytes, every run of requests that fit is answered as
over the backing file, with the same table and the same counters at its end. -/
theorem nvme_answers_like_file {δ F : Type} {α : Type u} [Field α] [LinearOrder α] {g : Guest δ}
    {content : δ → ByteFile} (hdev : IsDevice g content) (fl : FloatOps F) {link : Link δ}
    (hframe : InFrame link) (hlimit : (content link.daemon.guest).size < 2 ^ 64)
    (toBits : α → UInt32) (ofBits : Nat → α) (dtype : String) (val : DType → Bytes → α)
    (kernel : Option (Kernel α)) (requests : List (Request α))
    (hfits : (server cfg (nvmeDrive g fl toBits ofBits) .nvmeQemu dtype val kernel).Meets
      (Fits g (content link.daemon.guest).size) (init link) requests) :
    (server cfg (nvmeDrive g fl toBits ofBits) .nvmeQemu dtype val kernel).trace (init link)
        requests =
      (RealInferenceStorageBackend.server cfg val kernel).trace RealInferenceStorageBackend.init
        requests ∧
    ((server cfg (nvmeDrive g fl toBits ofBits) .nvmeQemu dtype val kernel).exec (init link)
        requests).storage =
      ((RealInferenceStorageBackend.server cfg val kernel).exec RealInferenceStorageBackend.init
        requests).storage ∧
    ((server cfg (nvmeDrive g fl toBits ofBits) .nvmeQemu dtype val kernel).exec (init link)
        requests).telemetry =
      ((RealInferenceStorageBackend.server cfg val kernel).exec RealInferenceStorageBackend.init
        requests).telemetry := by
  have hinit : (init link : DeviceBackend cfg (Link δ)) =
      (RealInferenceStorageBackend.init : RealInferenceStorageBackend cfg).overFile.on link := rfl
  have hmirrors : Mirrors content (content link.daemon.guest).size link
      (RealInferenceStorageBackend.init : RealInferenceStorageBackend cfg).overFile := by
    refine ⟨rfl, ⟨hframe, rfl, ByteFile.pread_zero _ _⟩, Nat.zero_le _, ?_⟩
    intro key e hget
    cases hget
  rw [hinit] at hfits ⊢
  obtain ⟨htrace, link', hexec⟩ := run_alike hdev hlimit toBits ofBits dtype val kernel hmirrors hfits
  obtain ⟨htrace', hexec'⟩ := server_overFile dtype val kernel
    (RealInferenceStorageBackend.init : RealInferenceStorageBackend cfg) requests
  rw [htrace, htrace', hexec, hexec']
  exact ⟨rfl, rfl, rfl⟩

theorem batch_of_one {δ ρ : Type} (page : PageReader cfg ρ) (s : DeviceBackend cfg (Link δ))
    {l bid : Nat} : ((batchRequests page s l [bid]).map batchRequest).length < 2 ^ 32 := by
  have hle : (batchRequests page s l [bid]).length ≤ 1 := List.length_filterMap_le _ _
  rw [List.length_map]
  omega

open RealInferenceStorageBackend (tinyConfig oneFloat) in
/-- A block written, read back alone and read back in a batch. -/
theorem nvme_answers_like_file_tiny :
    (server tinyConfig (nvmeDrive fileGuest intFloat (fun _ => 0) fun _ => (0 : ℚ)) .nvmeQemu
        "float16" (fun _ _ => 0) none).trace (init (connected ⟨[0, 0, 0, 0, 0, 0, 0, 0]⟩))
        [.other (.write 0 0 (oneFloat 1) (oneFloat 2) 0 0), .other (.readBlock 0 0 0 0),
          .other (.readKeyPageBatch 0 [0] 0 0)] =
      (RealInferenceStorageBackend.server tinyConfig (fun _ _ => 0) none).trace
        RealInferenceStorageBackend.init
        [.other (.write 0 0 (oneFloat 1) (oneFloat 2) 0 0), .other (.readBlock 0 0 0 0),
          .other (.readKeyPageBatch 0 [0] 0 0)] :=
  (@nvme_answers_like_file tinyConfig ByteFile Int ℚ _ _ fileGuest id isDevice_fileGuest intFloat
    (connected ⟨[0, 0, 0, 0, 0, 0, 0, 0]⟩) ⟨rfl, rfl, rfl, rfl⟩ (by decide) (fun _ => 0)
    (fun _ => 0) "float16" (fun _ _ => 0) none
    [.other (.write 0 0 (oneFloat 1) (oneFloat 2) 0 0), .other (.readBlock 0 0 0 0),
      .other (.readKeyPageBatch 0 [0] 0 0)]
    ⟨⟨by decide, by decide⟩, trivial, fun _ => ⟨by decide, by decide, batch_of_one _ _, rfl⟩,
      trivial⟩).1

end DeviceBackend

end AiSsd.Storage
