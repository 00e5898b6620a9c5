import AiSsd.Lib.Chunks
import AiSsd.Numpy.NDArray
import Mathlib.Data.List.FinRange
import Mathlib.Tactic.Ring

/-!
# KV tensors and the blocks they are cut into

A tensor `[1, heads, tokens, dim]` is the list of its tokens, each a row of `heads * dim`
elements. A block `[tokens_per_block, heads, dim]` lays rows end to end and fills what
is left with zeros; the first rows of a block come back as they went in.
-/

namespace AiSsd.Adapters

open Lib Numpy

universe u

inductive Precision where
  | fp16
  | fp32
deriving Repr, DecidableEq

/-- The KV shape of a model: at least one head of at least one dimension. -/
structure KVGeometry where
  kvHeads : Nat
  headDim : Nat
  precision : Precision
  kvHeads_pos : 0 < kvHeads
  headDim_pos : 0 < headDim

namespace KVGeometry

variable (geo : KVGeometry)

def bytesPerElem : Nat :=
  match geo.precision with
  | .fp16 => 2
  | .fp32 => 4

/-- `np_dtype`, which is also what `tensor.numpy()` has. -/
def npDtype : DType := if geo.bytesPerElem = 2 then float16 else float32

def rowBytes : Nat := geo.kvHeads * geo.headDim * geo.npDtype.itemsize

end KVGeometry

structure TokenRow (geo : KVGeometry) where
  bytes : Bytes
  length_eq : bytes.length = geo.rowBytes
deriving DecidableEq

abbrev KVToken (geo : KVGeometry) := TokenRow geo × TokenRow geo

/-- `astype` and `.to(dtype=...)`: elements of one dtype as elements of another. -/
structure Astype where
  astype : (src dst : DType) → Bytes → Bytes
  astype_self : ∀ d raw, astype d d raw = raw
  length_astype : ∀ src dst raw n, raw.length = n * src.itemsize →
    (astype src dst raw).length = n * dst.itemsize

variable {geo : KVGeometry}

def rowsBytes (rows : List (TokenRow geo)) : Bytes := (rows.map TokenRow.bytes).flatten

/-- `blk = np.zeros((tokens_per_block, kv_heads, head_dim)); blk[:len(rows)] = rows`. -/
def blockArray (tokensPerBlock : Nat) (rows : List (TokenRow geo)) : NDArray where
  dtype := geo.npDtype
  shape := [tokensPerBlock, geo.kvHeads, geo.headDim]
  data :=
    let size := tokensPerBlock * geo.rowBytes
    let used := (rowsBytes rows).take size
    used ++ List.replicate (size - used.length) 0
  size_eq := by
    have hprod : [tokensPerBlock, geo.kvHeads, geo.headDim].prod * geo.npDtype.itemsize =
        tokensPerBlock * geo.rowBytes := by
      simp only [List.prod_cons, List.prod_nil, KVGeometry.rowBytes]
      ring
    rw [hprod]
    simp only [List.length_append, List.length_replicate, List.length_take]
    omega

theorem blockArray_shape_ne (tokensPerBlock : Nat) (rows : List (TokenRow geo)) :
    (blockArray tokensPerBlock rows).shape ≠ [] := List.cons_ne_nil _ _

/-- Row `i` of the raw block, still in the dtype of the block. -/
def rawRow (blk : NDArray) (heads dim i : Nat) : Bytes :=
  chunk (heads * dim * blk.dtype.itemsize) blk.data i

theorem length_rawRow {blk : NDArray} {tokens heads dim i : Nat}
    (hshape : blk.shape = [tokens, heads, dim]) (hi : i < tokens) :
    (rawRow blk heads dim i).length = heads * dim * blk.dtype.itemsize := by
  have hsize : blk.data.length = tokens * (heads * dim * blk.dtype.itemsize) := by
    rw [blk.size_eq, hshape]
    simp only [List.prod_cons, List.prod_nil]
    ring
  have hlast : (i + 1) * (heads * dim * blk.dtype.itemsize) ≤ blk.data.length := by
    rw [hsize]
    exact Nat.mul_le_mul_right _ hi
  rw [rawRow, length_chunk]
  rw [Nat.add_mul, Nat.one_mul] at hlast
  omega

/-- `torch.from_numpy(blk[:actual]).to(dtype).permute(1, 0, 2).unsqueeze(0)`, which
`torch.cat` accepts only with the heads and dimension of the other parts. -/
def tokenRows (A : Astype) (geo : KVGeometry) (blk : NDArray) (actual : Nat) :
    Except PyErr (List (TokenRow geo)) :=
  match hshape : blk.shape with
  | [tokens, heads, dim] =>
      if hdims : heads = geo.kvHeads ∧ dim = geo.headDim then
        .ok ((List.finRange (min actual tokens)).map fun (i : Fin (min actual tokens)) =>
          { bytes := A.astype blk.dtype geo.npDtype (rawRow blk heads dim i)
            length_eq := by
              have hi : i.val < tokens := Nat.lt_of_lt_of_le i.isLt (Nat.min_le_right _ _)
              rw [A.length_astype _ _ _ _ (length_rawRow hshape hi), hdims.1, hdims.2]
              rfl })
      else .error .runtimeError
  | _ => .error .runtimeError

theorem TokenRow.ext_bytes {r r' : TokenRow geo} (h : r.bytes = r'.bytes) : r = r' := by
  cases r
  cases r'
  cases h
  rfl

theorem length_rowsBytes (rows : List (TokenRow geo)) :
    (rowsBytes rows).length = rows.length * geo.rowBytes := by
  rw [rowsBytes, length_flatten_of_forall (n := geo.rowBytes), List.length_map]
  intro raw hraw
  obtain ⟨row, _, rfl⟩ := List.mem_map.mp hraw
  exact row.length_eq

theorem blockArray_data {tokensPerBlock : Nat} {rows : List (TokenRow geo)}
    (hfit : rows.length ≤ tokensPerBlock) : (blockArray tokensPerBlock rows).data =
      rowsBytes rows ++
        List.replicate (tokensPerBlock * geo.rowBytes - (rowsBytes rows).length) 0 := by
  have hle : (rowsBytes rows).length ≤ tokensPerBlock * geo.rowBytes := by
    rw [length_rowsBytes]
    exact Nat.mul_le_mul_right _ hfit
  simp only [blockArray, List.take_of_length_le hle]

theorem rawRow_blockArray {tokensPerBlock : Nat} {rows : List (TokenRow geo)}
    (hfit : rows.length ≤ tokensPerBlock) {i : Nat} (hi : i < rows.length) :
    rawRow (blockArray tokensPerBlock rows) geo.kvHeads geo.headDim i = rows[i].bytes := by
  have hfull : (i + 1) * geo.rowBytes ≤ (rowsBytes rows).length := by
    rw [length_rowsBytes]
    exact Nat.mul_le_mul_right _ hi
  have hrows : ∀ raw ∈ rows.map TokenRow.bytes, raw.length = geo.rowBytes := by
    intro raw hraw
    obtain ⟨row, _, rfl⟩ := List.mem_map.mp hraw
    exact row.length_eq
  have hmap : i < (rows.map TokenRow.bytes).length := by rwa [List.length_map]
  calc rawRow (blockArray tokensPerBlock rows) geo.kvHeads geo.headDim i
      = chunk geo.rowBytes (blockArray tokensPerBlock rows).data i := rfl
    _ = chunk geo.rowBytes (rowsBytes rows) i := by
        rw [blockArray_data hfit, chunk_append_of_full _ hfull]
    _ = rows[i].bytes := by
        rw [rowsBytes, chunk_flatten hrows hmap, List.getElem_map]

/-- The first rows of a block are the rows it was filled with, no padding among them. -/
theorem tokenRows_blockArray (A : Astype) {tokensPerBlock : Nat} {rows : List (TokenRow geo)}
    (hfit : rows.length ≤ tokensPerBlock) :
    tokenRows A geo (blockArray tokensPerBlock rows) rows.length = .ok rows := by
  have hmin : min rows.length tokensPerBlock = rows.length := Nat.min_eq_left hfit
  have hrows : (List.finRange (min rows.length tokensPerBlock)).map
      (fun i => (A.astype geo.npDtype geo.npDtype
        (rawRow (blockArray tokensPerBlock rows) geo.kvHeads geo.headDim i.val))) =
      rows.map TokenRow.bytes := by
    apply List.ext_getElem
    · simp [hmin]
    · intro i h₁ h₂
      rw [List.length_map] at h₂
      simp only [List.getElem_map, List.getElem_finRange, A.astype_self]
      exact rawRow_blockArray hfit h₂
  unfold tokenRows
  split
  · rename_i tokens heads dim hshape
    obtain ⟨rfl, rfl, rfl⟩ : tokensPerBlock = tokens ∧ geo.kvHeads = heads ∧ geo.headDim = dim := by
      simpa [blockArray] using hshape
    rw [dif_pos ⟨rfl, rfl⟩]
    congr 1
    apply List.map_injective_iff.mpr fun _ _ => TokenRow.ext_bytes
    rw [List.map_map]
    exact hrows
  · rename_i hshape
    exact absurd rfl (hshape tokensPerBlock geo.kvHeads geo.headDim)

end AiSsd.Adapters
