import AiSsd.Ftl.LocationCodec
import AiSsd.Lib.ByteFile
import AiSsd.Lib.Counter
import Mathlib.Data.Rat.Defs

/-!
# The analytical backend

`AnalyticalFTLBackend` stores nothing: it maps each request to a channel, charges a latency and
keeps count of requests and bytes by direction, by channel and by kind of page.
-/

namespace AiSsd.Storage

open Lib

inductive SubPage where
  | key
  | value
  | both
  | other (name : String)
deriving Repr, DecidableEq

structure AnalyticalFTLBackend (mapper : DeterministicTensorMapper) where
  mode : MappingMode
  totalReads : Nat
  totalWrites : Nat
  bytesRead : Int
  bytesWritten : Int
  totalLatencyUs : Rat
  channelAccessCounts : Fin mapper.channels → Nat
  channelBytes : Fin mapper.channels → Int
  operationCounts : String → Nat
  kBytes : Int
  vBytes : Int
  combinedBytes : Int

namespace AnalyticalFTLBackend

def keyPageBytes : Int := 4096

def logicalBlockBytes : Int := 8192

/-- The mapper of a backend: its own geometry, and the mapper's defaults for the rest. -/
def mapperOf (channels diesPerChannel planesPerDie blocksPerPlane : Nat)
    (hchannels : 0 < channels) (hdies : 0 < diesPerChannel) (hplanes : 0 < planesPerDie)
    (hblocks : 0 < blocksPerPlane) : DeterministicTensorMapper where
  channels := channels
  diesPerChannel := diesPerChannel
  planesPerDie := planesPerDie
  blocksPerPlane := blocksPerPlane
  pagesPerBlock := 128
  sectorSizeBytes := 4096
  maxTokensPerHead := 32768
  numLayers := 24
  numHeads := 2
  channels_pos := hchannels
  dies_pos := hdies
  planes_pos := hplanes
  blocks_pos := hblocks
  pages_pos := Ftl.FtlGeometry.default_pages

def defaultMapper : DeterministicTensorMapper :=
  mapperOf 8 4 2 64 Ftl.FtlGeometry.default_channels Ftl.FtlGeometry.default_dies
    Ftl.FtlGeometry.default_planes Ftl.FtlGeometry.default_blocks

/-- What the methods read of their keyword arguments. -/
structure Kwargs where
  byteSize : Option Int := none
  byteLength : Option Int := none
  subPage : Option SubPage := none
  operation : Option String := none
  tokenStart : Option Nat := none

/-- `kwargs.get("byte_size", kwargs.get("byte_length", default))`. -/
def Kwargs.size (kwargs : Kwargs) (default : Int) : Int :=
  kwargs.byteSize.getD (kwargs.byteLength.getD default)

structure Location where
  blockId : Nat
  layerId : Nat := 0
  headId : Nat := 0

structure StorageRequest where
  location : Location
  length : Int := 4096
  isWrite : Bool := false
  payload : Option Bytes := none
  metadata : Kwargs := {}

structure StorageResult (mapper : DeterministicTensorMapper) where
  blockId : Nat
  length : Int
  latencyUs : Rat
  isWrite : Bool
  coord : NANDPhysicalCoordinate mapper.channels
  locationStr : Ftl.Text
  mode : MappingMode

variable {mapper : DeterministicTensorMapper}

def init (mapper : DeterministicTensorMapper) (mode : MappingMode) :
    AnalyticalFTLBackend mapper where
  mode := mode
  totalReads := 0
  totalWrites := 0
  bytesRead := 0
  bytesWritten := 0
  totalLatencyUs := 0
  channelAccessCounts := fun _ => 0
  channelBytes := fun _ => 0
  operationCounts := fun _ => 0
  kBytes := 0
  vBytes := 0
  combinedBytes := 0

variable (s : AnalyticalFTLBackend mapper)

def resolvePhysicalCoord (at_ : Location) (tokenStart : Nat) :
    Except PyErr (NANDPhysicalCoordinate mapper.channels) :=
  mapper.tensorToNandPhysical ⟨at_.layerId, at_.headId, tokenStart, 16, some at_.blockId, 44⟩
    s.mode none

def accountCombined (length : Int) : AnalyticalFTLBackend mapper :=
  { s with
    combinedBytes := s.combinedBytes + length
    kBytes := s.kBytes + length / 2
    vBytes := s.vBytes + length / 2 }

def accountSubpageBytes (length : Int) : SubPage → AnalyticalFTLBackend mapper
  | .key => { s with kBytes := s.kBytes + length }
  | .value => { s with vBytes := s.vBytes + length }
  | .both => s.accountCombined length
  | .other _ =>
      if length = logicalBlockBytes then s.accountCombined length
      else { s with kBytes := s.kBytes + length }

/-! ## Single requests -/

/-- `sub_page` of a transfer of `length` bytes. -/
def subPageOf (kwargs : Kwargs) (length : Int) : SubPage :=
  kwargs.subPage.getD (if length = logicalBlockBytes then .both else .key)

structure Transfer where
  location : Location
  isWrite : Bool
  length : Int
  subPage : SubPage
  opName : String
  tokenStart : Nat

def readTransfer (at_ : Location) (length : Option Int) (kwargs : Kwargs) : Transfer :=
  let reqLen :=
    match length with
    | some n => if 0 < n then n else kwargs.size keyPageBytes
    | none => kwargs.size keyPageBytes
  { location := at_
    isWrite := false
    length := reqLen
    subPage := subPageOf kwargs reqLen
    opName := kwargs.operation.getD "DECODE_READ"
    tokenStart := kwargs.tokenStart.getD 0 }

def writeTransfer (at_ : Location) (data : Bytes) (length : Option Int) (kwargs : Kwargs) :
    Transfer :=
  let reqLen :=
    if data ≠ [] then (data.length : Int)
    else
      match length with
      | some n => if 0 < n then n else kwargs.size logicalBlockBytes
      | none => kwargs.size logicalBlockBytes
  { location := at_
    isWrite := true
    length := reqLen
    subPage := subPageOf kwargs reqLen
    opName := kwargs.operation.getD "PREFILL_WRITE"
    tokenStart := kwargs.tokenStart.getD 0 }

def Transfer.latencyUs (t : Transfer) : Rat :=
  if t.isWrite then 200 + (t.length / 4096 : Int) * (17 / 5)
  else 25 + (max 1 (t.length / 4096) : Int) * (17 / 5)

/-- The counters after a transfer on `ch`; the same in both directions but for the totals. -/
def track (t : Transfer) (ch : Fin mapper.channels) : AnalyticalFTLBackend mapper :=
  let s :=
    if t.isWrite then
      { s with totalWrites := s.totalWrites + 1, bytesWritten := s.bytesWritten + t.length }
    else { s with totalReads := s.totalReads + 1, bytesRead := s.bytesRead + t.length }
  let s :=
    { s with
      totalLatencyUs := s.totalLatencyUs + t.latencyUs
      channelAccessCounts := Counter.charge s.channelAccessCounts ch 1
      channelBytes := Counter.charge s.channelBytes ch t.length
      operationCounts := Counter.charge s.operationCounts t.opName 1 }
  s.accountSubpageBytes t.length t.subPage

def serve (t : Transfer) :
    Except PyErr (StorageResult mapper) × AnalyticalFTLBackend mapper :=
  match s.resolvePhysicalCoord t.location t.tokenStart with
  | .error err => (.error err, s)
  | .ok nand =>
      (.ok {
        blockId := t.location.blockId
        length := t.length
        latencyUs := t.latencyUs
        isWrite := t.isWrite
        coord := nand
        locationStr := nand.toLocationStr
        mode := s.mode }, s.track t nand.channel)

def read (at_ : Location) (length : Option Int) (kwargs : Kwargs) :
    Except PyErr (StorageResult mapper) × AnalyticalFTLBackend mapper :=
  s.serve (readTransfer at_ length kwargs)

def write (at_ : Location) (data : Bytes) (length : Option Int) (kwargs : Kwargs) :
    Except PyErr (StorageResult mapper) × AnalyticalFTLBackend mapper :=
  s.serve (writeTransfer at_ data length kwargs)

/-! ## Batches -/

def StorageRequest.reqLen (req : StorageRequest) : Int :=
  if 0 < req.length then req.length else req.metadata.byteSize.getD 4096

def StorageRequest.writes (req : StorageRequest) : Bool :=
  req.isWrite || req.metadata.operation == some "PREFILL_WRITE"

def submitRequest (req : StorageRequest) :
    Except PyErr (StorageResult mapper) × AnalyticalFTLBackend mapper :=
  match s.resolvePhysicalCoord req.location (req.metadata.tokenStart.getD 0) with
  | .error err => (.error err, s)
  | .ok _ =>
      if req.writes then
        s.write req.location (req.payload.getD []) (some req.reqLen) req.metadata
      else s.read req.location (some req.reqLen) req.metadata

def submitBatch (s : AnalyticalFTLBackend mapper) :
    List StorageRequest → Except PyErr (List (StorageResult mapper)) × AnalyticalFTLBackend mapper
  | [] => (.ok [], s)
  | req :: requests =>
      match s.submitRequest req with
      | (.error err, s) => (.error err, s)
      | (.ok res, s) =>
          match submitBatch s requests with
          | (.error err, s) => (.error err, s)
          | (.ok results, s) => (.ok (res :: results), s)

end AnalyticalFTLBackend

end AiSsd.Storage
