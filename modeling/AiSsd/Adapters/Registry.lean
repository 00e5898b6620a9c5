import AiSsd.Adapters.Descriptor
import AiSsd.PyErr
import Mathlib.Data.List.Infix

/-!
# The model registry

The built-in table, the file of custom models and what a model identifier is resolved to. A
registry is the table in memory and the text of the file, which is missing at first.
-/

namespace AiSsd.Adapters

open Lib
open PyVal (str int float ints strs level)

structure ModelRegistry where
  file : Option (List (Token JsonAtom))
  known : Dict String PyVal

/-! ## The built-in table -/

def KNOWN_MODELS : Dict String PyVal where
  entries := [
    ("qwen3-4b", .dict [
      ("model_id", str "Qwen/Qwen3-4B-Instruct-2507"),
      ("architecture", str "qwen2"),
      ("model_family", str "transformer"),
      ("params", str "4.02B"),
      ("default_precision", str "fp32"),
      ("supported_precisions", strs ["fp32", "float32"]),
      ("supported_contexts", ints [512, 1024, 2048, 4096, 8192, 16384, 32768]),
      ("attention_type", str "GQA"),
      ("num_layers", int 36),
      ("num_attention_heads", int 16),
      ("num_key_value_heads", int 4),
      ("head_dim", int 128),
      ("hidden_size", int 2048),
      ("vocab_size", int 151936),
      ("compatibility_level", level .full),
      ("compatibility_reason", str "Validated canonical V2 release"),
      ("dense_peak_rss_mb", float (170284 / 10)),
      ("expected_tokens_seed42", ints [
        11773, 48758, 6529, 19826, 4712, 57203, 12756, 3871,
        1948, 279, 3239, 4621, 323, 9144, 6894, 13])]),
    ("qwen3-8b", .dict [
      ("model_id", str "Qwen/Qwen3-8B"),
      ("architecture", str "qwen2"),
      ("model_family", str "transformer"),
      ("params", str "8.19B"),
      ("default_precision", str "fp16"),
      ("supported_precisions", strs ["fp16", "float16"]),
      ("supported_contexts", ints [512, 1024, 2048, 4096, 8192, 16384]),
      ("attention_type", str "GQA"),
      ("num_layers", int 36),
      ("num_attention_heads", int 32),
      ("num_key_value_heads", int 8),
      ("head_dim", int 128),
      ("hidden_size", int 4096),
      ("vocab_size", int 152064),
      ("compatibility_level", level .full),
      ("compatibility_reason", str "Validated canonical V2 release"),
      ("dense_peak_rss_mb", float (180225 / 10)),
      ("expected_tokens_seed42", ints [
        11773, 48758, 6529, 19826, 4712, 57203, 12756, 3871,
        1948, 279, 3239, 4621, 323, 9144, 6894, 13])]),
    ("qwen2.5-0.5b", .dict [
      ("model_id", str "Qwen/Qwen2.5-0.5B"),
      ("architecture", str "qwen2"),
      ("model_family", str "transformer"),
      ("params", str "0.49B"),
      ("default_precision", str "fp32"),
      ("supported_precisions", strs ["fp32", "float32"]),
      ("supported_contexts", ints [512, 1024, 2048, 4096]),
      ("attention_type", str "GQA"),
      ("num_layers", int 24),
      ("num_attention_heads", int 14),
      ("num_key_value_heads", int 2),
      ("head_dim", int 64),
      ("hidden_size", int 896),
      ("vocab_size", int 151936),
      ("compatibility_level", level .full),
      ("compatibility_reason", str "Validated development model")]),
    ("qwen3.5-4b", .dict [
      ("model_id", str "Qwen/Qwen3.5-4B-Instruct"),
      ("architecture", str "qwen2"),
      ("model_family", str "transformer"),
      ("params", str "4.0B"),
      ("default_precision", str "fp32"),
      ("supported_precisions", strs ["fp32", "float32", "fp16", "float16"]),
      ("supported_contexts", ints [512, 1024, 2048, 4096, 8192]),
      ("attention_type", str "GQA"),
      ("num_layers", int 36),
      ("num_attention_heads", int 16),
      ("num_key_value_heads", int 4),
      ("head_dim", int 128),
      ("hidden_size", int 2048),
      ("vocab_size", int 151936),
      ("compatibility_level", level .full),
      ("compatibility_reason",
        str "Qwen 3.5 GQA Transformer architecture supported via QwenAdapter")]),
    ("qwen3.5-9b", .dict [
      ("model_id", str "Qwen/Qwen3.5-9B"),
      ("architecture", str "qwen3_5"),
      ("model_family", str "hybrid_recurrent"),
      ("params", str "9.7B"),
      ("default_precision", str "fp16"),
      ("supported_precisions", strs ["fp16", "float16"]),
      ("supported_contexts", ints [512, 1024, 2048, 4096, 8192]),
      ("attention_type", str "Hybrid (24 Linear SSM + 8 Full GQA)"),
      ("num_layers", int 32),
      ("num_attention_heads", int 16),
      ("num_key_value_heads", int 4),
      ("head_dim", int 256),
      ("hidden_size", int 4096),
      ("vocab_size", int 248320),
      ("has_separable_kv_cache", PyVal.bool true),
      ("compatibility_level", level .partially),
      ("compatibility_reason", str
        ("Hybrid Attention + Linear SSM: 8 Full GQA Attention layers offloaded to AI-SSD, " ++
          "24 Linear Attention SSM layers resident in DRAM"))]),
    ("tiny-mistral", .dict [
      ("model_id", str "openaccess-ai-collective/tiny-mistral"),
      ("architecture", str "mistral"),
      ("model_family", str "transformer"),
      ("params", str "0.21B"),
      ("default_precision", str "fp32"),
      ("supported_precisions", strs ["fp32", "float32", "fp16", "float16"]),
      ("supported_contexts", ints [512, 1024, 2048, 4096]),
      ("attention_type", str "GQA"),
      ("sliding_window", int 4096),
      ("num_layers", int 8),
      ("num_attention_heads", int 16),
      ("num_key_value_heads", int 4),
      ("head_dim", int 32),
      ("hidden_size", int 512),
      ("vocab_size", int 32000),
      ("compatibility_level", level .full),
      ("compatibility_reason",
        str "Validated Mistral architecture with GQA and sliding-window support")]),
    ("mistral-7b", .dict [
      ("model_id", str "mistralai/Mistral-7B-v0.1"),
      ("architecture", str "mistral"),
      ("model_family", str "transformer"),
      ("params", str "7.24B"),
      ("default_precision", str "fp16"),
      ("supported_precisions", strs ["fp16", "float16"]),
      ("supported_contexts", ints [512, 1024, 2048, 4096, 8192]),
      ("attention_type", str "GQA"),
      ("sliding_window", int 4096),
      ("num_layers", int 32),
      ("num_attention_heads", int 32),
      ("num_key_value_heads", int 8),
      ("head_dim", int 128),
      ("hidden_size", int 4096),
      ("vocab_size", int 32000),
      ("compatibility_level", level .full),
      ("compatibility_reason", str "Mistral 7B architecture supported via MistralAdapter")]),
    ("jamba", .dict [
      ("model_id", str "ai21labs/AI21-Jamba-1.5-Mini"),
      ("architecture", str "jamba"),
      ("model_family", str "hybrid_transformer_ssm"),
      ("params", str "12B (52B total MoE)"),
      ("default_precision", str "fp16"),
      ("supported_precisions", strs ["fp16", "float16", "bf16"]),
      ("supported_contexts", ints [512, 1024, 2048, 4096]),
      ("attention_type", str "GQA"),
      ("num_layers", int 32),
      ("num_attention_heads", int 32),
      ("num_key_value_heads", int 8),
      ("head_dim", int 128),
      ("hidden_size", int 4096),
      ("vocab_size", int 65536),
      ("compatibility_level", level .partially),
      ("compatibility_reason", str
        "Hybrid Attention + Mamba: Attention KV offloaded to AI-SSD, SSM states resident in DRAM")]),
    ("mamba", .dict [
      ("model_id", str "state-spaces/mamba-130m-hf"),
      ("architecture", str "mamba"),
      ("model_family", str "ssm"),
      ("params", str "0.13B"),
      ("default_precision", str "fp32"),
      ("supported_precisions", strs ["fp32", "float32"]),
      ("supported_contexts", ints [512, 1024, 2048]),
      ("attention_type", str "None (Pure State-Space)"),
      ("num_layers", int 24),
      ("num_attention_heads", int 0),
      ("num_key_value_heads", int 0),
      ("head_dim", int 0),
      ("hidden_size", int 768),
      ("vocab_size", int 50280),
      ("has_separable_kv_cache", PyVal.bool false),
      ("compatibility_level", level .unsupported),
      ("compatibility_reason", str
        "Pure state-space recurrent model lacks separable KV cache for attention Top-K offload")])]
  nodup := by decide

/-! ## The file of custom models -/

/-- The string at `"compatibility_level"` turned into its member, where it names one. -/
def withLevel (fields : List (String × PyVal)) : List (String × PyVal) :=
  match Dict.lookup "compatibility_level" fields with
  | some (.atom (.json (.str s))) =>
      match CompatibilityLevel.ofValue? s with
      | some member => Dict.assign "compatibility_level" (level member) fields
      | none => fields
  | _ => fields

/-- `"compatibility_level" in v`, and the level converted there. -/
def readEntry : PyVal → Except PyErr PyVal
  | .dict fields => .ok (.dict (withLevel fields))
  | .list items =>
      -- a list that has the word in it is then asked for an item by that name
      if items.any fun
          | .atom (.json (.str s)) => s == "compatibility_level"
          | _ => false
      then .error .typeError else .ok (.list items)
  | .atom (.json (.str s)) =>
      if "compatibility_level".toList <:+: s.toList then .error .typeError else .ok (str s)
  | .atom _ => .error .typeError

def readEntries (fields : List (String × Doc JsonAtom)) : Except PyErr (List (String × PyVal)) :=
  fields.mapM fun e => (readEntry (e.2.map .json)).map fun v => (e.1, v)

/-- The body of `load_custom_models`, with what it raises. -/
def readModels (file : Option (List (Token JsonAtom))) : Except PyErr (Dict String PyVal) :=
  match file with
  | none => .ok Dict.empty
  | some text =>
      match readDoc text with
      | some (.dict fields) => (readEntries fields).map Dict.empty.setEach
      | some _ => .error .attributeError
      | none => .error (.valueError "JSONDecodeError")

/-- Whatever goes wrong, there are then no custom models. -/
def loadCustomModels (file : Option (List (Token JsonAtom))) : Dict String PyVal :=
  match readModels file with
  | .ok models => models
  | .error _ => Dict.empty

/-- What becomes of the text that is written to the file: opening it may fail, and the disk may
take only so many tokens. -/
inductive Disk where
  | accepts
  | refuses (message : String)
  | fills (tokens : Nat) (message : String)

/-- `current`: the file as it parses, nothing when it does not. -/
def currentModels (file : Option (List (Token JsonAtom))) : PyVal :=
  match file.bind readDoc with
  | some data => data.map .json
  | none => .dict []

/-- `current[key] = v`. -/
def setItem (current : PyVal) (key : String) (v : PyVal) : Except PyErr PyVal :=
  match current with
  | .dict fields => .ok (.dict (Dict.assign key v fields))
  | _ => .error .typeError

def entryCopy (entry : Dict String PyVal) : List (String × PyVal) :=
  match entry.get? "compatibility_level" with
  | some (.atom (.level member)) =>
      Dict.assign "compatibility_level" (str member.value) entry.entries
  | _ => entry.entries

namespace ModelRegistry

/-- The file is truncated when it is opened and filled while the text is made; the table in
memory follows last. -/
def saveCustomModel (r : ModelRegistry) (modelKey : String) (entry : Dict String PyVal)
    (disk : Disk) : Except PyErr Unit × ModelRegistry :=
  match setItem (currentModels r.file) modelKey (.dict (entryCopy entry)) with
  | .error err => (.error err, r)
  | .ok current =>
      let dump := current.write PyAtom.written
      match disk with
      | .refuses message => (.error (.ioError message), r)
      | .fills tokens message =>
          (.error
              (if dump.2 = false ∧ dump.1.length ≤ tokens then .typeError else .ioError message),
            { r with file := some (dump.1.take tokens) })
      | .accepts =>
          if dump.2 then
            (.ok (), { file := some dump.1, known := r.known.set modelKey (.dict entry.entries) })
          else (.error .typeError, { r with file := some dump.1 })

def registerModelEntry (r : ModelRegistry) (modelKey : String) (entry : Dict String PyVal)
    (disk : Disk) : Except PyErr Unit × ModelRegistry :=
  r.saveCustomModel modelKey entry disk

def listModels (r : ModelRegistry) : Dict String PyVal := (loadCustomModels r.file).update r.known

/-- A new process: the table is the built-in one, the file is as it was left. -/
def restart (r : ModelRegistry) : ModelRegistry := { r with known := KNOWN_MODELS }

end ModelRegistry

/-! ## Configurations of known models -/

def requiredFields : List String :=
  ["model_id", "architecture", "model_family", "num_layers", "num_attention_heads",
    "num_key_value_heads", "head_dim", "hidden_size", "vocab_size", "default_precision",
    "supported_precisions", "supported_contexts", "attention_type", "compatibility_level",
    "compatibility_reason"]

/-- `entry.get(name)`. -/
def fieldOf (fields : List (String × PyVal)) (name : String) : PyVal :=
  (Dict.lookup name fields).getD PyVal.none

/-- The configuration of a complete entry. Neither the separable cache nor the layer types are
taken from it. -/
def configOf (fields : List (String × PyVal)) : Descriptor.ModelArchitectureConfig where
  modelId := fieldOf fields "model_id"
  architecture := fieldOf fields "architecture"
  modelFamily := fieldOf fields "model_family"
  numLayers := fieldOf fields "num_layers"
  numAttentionHeads := fieldOf fields "num_attention_heads"
  numKeyValueHeads := fieldOf fields "num_key_value_heads"
  headDim := fieldOf fields "head_dim"
  hiddenSize := fieldOf fields "hidden_size"
  vocabSize := fieldOf fields "vocab_size"
  defaultPrecision := fieldOf fields "default_precision"
  supportedPrecisions := fieldOf fields "supported_precisions"
  supportedContexts := fieldOf fields "supported_contexts"
  attentionType := fieldOf fields "attention_type"
  slidingWindow := fieldOf fields "sliding_window"
  compatibilityLevel := fieldOf fields "compatibility_level"
  compatibilityReason := fieldOf fields "compatibility_reason"
  paramCount := fieldOf fields "params"
  expectedTokensSeed42 := fieldOf fields "expected_tokens_seed42"
  densePeakRssMb := fieldOf fields "dense_peak_rss_mb"

def entryConfig : PyVal → Except PyErr Descriptor.ModelArchitectureConfig
  | .dict fields =>
      match requiredFields.find? fun name => (Dict.lookup name fields).isNone with
      | some name => .error (.keyError name)
      | none => .ok (configOf fields)
  | _ => .error .typeError

/-! ## Configurations from Hugging Face -/

/-- Python's `str.strip`, `str.lower` and `str.upper`. -/
structure PyCase where
  strip : String → String
  lower : String → String
  upper : String → String

/-- Those of plain ASCII text, to compute with. -/
def PyCase.ascii : PyCase where
  strip := fun s => String.ofList
    (((s.toList.dropWhile Char.isWhitespace).reverse.dropWhile Char.isWhitespace).reverse)
  lower := fun s => String.ofList (s.toList.map Char.toLower)
  upper := fun s => String.ofList (s.toList.map Char.toUpper)

structure HfAttributes where
  modelType : Option String
  numHiddenLayers : Option Int
  numAttentionHeads : Option Int
  numKeyValueHeads : Option Int
  hiddenSize : Option Int
  headDim : Option Int
  vocabSize : Option Int
  slidingWindow : Option Int

structure HfConfig extends HfAttributes where
  textConfig : Option HfAttributes

/-- `AutoConfig.from_pretrained`: a configuration, or the text of what it raises. -/
abbrev AutoConfig := String → Except String HfConfig

/-- The identifier as it is given, then below the vendor its name starts with. -/
def inspectModel (hf : AutoConfig) (modelIdentifier normKey : String) :
    Except String (HfConfig × String) :=
  match hf modelIdentifier with
  | .ok config => .ok (config, modelIdentifier)
  | .error err =>
      if '/' ∈ modelIdentifier.toList then .error err
      else if "qwen".toList <+: normKey.toList then
        (hf ("Qwen/" ++ modelIdentifier)).map fun config => (config, "Qwen/" ++ modelIdentifier)
      else if "mistral".toList <+: normKey.toList then
        (hf ("mistralai/" ++ modelIdentifier)).map fun config =>
          (config, "mistralai/" ++ modelIdentifier)
      else .error err

def failedConfig (modelIdentifier err : String) : Descriptor.ModelArchitectureConfig where
  modelId := str modelIdentifier
  architecture := str "unknown"
  modelFamily := str "unknown"
  numLayers := int 0
  numAttentionHeads := int 0
  numKeyValueHeads := int 0
  headDim := int 0
  hiddenSize := int 0
  vocabSize := int 0
  defaultPrecision := str "fp16"
  supportedPrecisions := strs []
  supportedContexts := ints []
  attentionType := str "unknown"
  hasSeparableKvCache := false
  compatibilityLevel := level .unsupported
  compatibilityReason := str s!"Failed to inspect configuration: {err}"

def compatibilityOf (py : PyCase) (modelType attnType : String) :
    CompatibilityLevel × String × String :=
  if modelType ∈ ["qwen2", "qwen", "qwen3", "mistral", "llama"] then
    (.full, s!"Supported {py.upper modelType} Transformer architecture ({attnType})",
      "transformer")
  else if modelType = "qwen3_5" then
    (.partially,
      s!"Hybrid architecture ({modelType}): Attention KV layers offloaded to AI-SSD, " ++
        "Linear Attention (DeltaNet/SSM) layers resident in DRAM.",
      "hybrid_recurrent")
  else if modelType = "jamba" then
    (.partially,
      "Hybrid Attention + Mamba architecture: Attention KV offloaded to AI-SSD, " ++
        "SSM resident in DRAM",
      "hybrid_transformer_ssm")
  else if modelType ∈ ["mamba", "mamba2", "rwkv"] then
    (.unsupported,
      s!"Pure state-space/recurrent model ({modelType}) lacks separable KV cache for " ++
        "attention Top-K offload",
      "ssm")
  else
    (.unsupported,
      s!"Unsupported architecture family: {modelType}. Requires a custom ModelAdapter and " ++
        "StateProvider.",
      "unknown")

def attentionTypeOf (numAttnHeads numKvHeads : Int) : String :=
  if numKvHeads = 1 ∧ numAttnHeads > 1 then "MQA"
  else if numKvHeads < numAttnHeads then "GQA"
  else "MHA"

def inspectedConfig (py : PyCase) (hfCfg : HfConfig) (modelIdentifier : String) :
    Descriptor.ModelArchitectureConfig :=
  let textCfg := hfCfg.textConfig.getD hfCfg.toHfAttributes
  let modelType := py.lower (hfCfg.modelType.getD (textCfg.modelType.getD ""))
  let numAttnHeads := textCfg.numAttentionHeads.getD 0
  let numKvHeads := textCfg.numKeyValueHeads.getD numAttnHeads
  let hiddenSize := textCfg.hiddenSize.getD 0
  let attnType := attentionTypeOf numAttnHeads numKvHeads
  let (compLevel, reason, family) := compatibilityOf py modelType attnType
  { modelId := str modelIdentifier
    architecture := str modelType
    modelFamily := str family
    numLayers := int (textCfg.numHiddenLayers.getD 0)
    numAttentionHeads := int numAttnHeads
    numKeyValueHeads := int numKvHeads
    headDim := int
      (textCfg.headDim.getD (if numAttnHeads > 0 then hiddenSize / numAttnHeads else 64))
    hiddenSize := int hiddenSize
    vocabSize := int (textCfg.vocabSize.getD 0)
    defaultPrecision := str "fp16"
    supportedPrecisions := strs ["fp16", "float16", "fp32", "float32"]
    supportedContexts := ints [512, 1024, 2048, 4096]
    attentionType := str attnType
    slidingWindow := (textCfg.slidingWindow.map PyVal.int).getD PyVal.none
    compatibilityLevel := level compLevel
    compatibilityReason := str reason }

/-! ## Detection -/

def normKey (py : PyCase) (modelIdentifier : String) : String :=
  let key := py.lower (py.strip modelIdentifier)
  if key ∈ ["qwen3.5", "qwen-3.5"] then "qwen3.5-4b"
  else if key ∈ ["qwen3.5-9b", "qwen-3.5-9b", "qwen3.5_9b", "qwen/qwen3.5-9b"] then "qwen3.5-9b"
  else key

/-- The configuration; level and reason are returned as the configuration has them. -/
def ModelRegistry.detectModelConfig (py : PyCase) (hf : AutoConfig) (r : ModelRegistry)
    (modelIdentifier : String) :
    Except PyErr (Descriptor.ModelArchitectureConfig × PyVal × PyVal) :=
  match r.listModels.get? (normKey py modelIdentifier) with
  | some entry =>
      (entryConfig entry).map fun cfg => (cfg, cfg.compatibilityLevel, cfg.compatibilityReason)
  | none =>
      match inspectModel hf modelIdentifier (normKey py modelIdentifier) with
      | .error err =>
          let cfg := failedConfig modelIdentifier err
          .ok (cfg, level .unsupported, cfg.compatibilityReason)
      | .ok (hfCfg, modelIdentifier) =>
          let cfg := inspectedConfig py hfCfg modelIdentifier
          .ok (cfg, cfg.compatibilityLevel, cfg.compatibilityReason)

end AiSsd.Adapters
