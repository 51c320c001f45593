import LispHost.Config.Load
import LispHost.Proofs.Bridge.Runs
import LispHost.Proofs.Decode.Depth
import LispHost.Proofs.Guest.Minimal
import Mathlib.Control.Monad.Basic

/-!
One bound for all decodes.

A bound can be asked for by the options of a single decode, by a text of settings, by the environment,
by the settings that a bridge is started with, or of a bridge that runs already. Each of them is pulled
down to the same ceiling, so whichever way it was asked for, the same bound is kept.
-/

set_option autoImplicit false

namespace LispHost

variable {σ : Type}

theorem DecodingContext.elidedAt_of_decode {ctx : DecodingContext σ} {options : DecodeOptions}
    {value : Word} {inst : Instance σ} {shown : Projection}
    (ok : (ctx.decode options value inst).1 = .ok shown) :
    shown.ElidedAt (min options.maxDepth 2048 + 1) :=
  Projection.elidedAt_of_decode ok

theorem Bridge.elidedAt_of_project {bridge : Bridge σ} {asked : DecodeOptions}
    (held : bridge.options = asked.clamped) {value : Word} {shown : Projection}
    (ok : (bridge.project value).1 = .ok shown) :
    shown.ElidedAt (min asked.maxDepth 2048 + 1) := by
  have live : (bridge.context.decode bridge.options value bridge.inst).1 = .ok shown := ok
  have bounded := DecodingContext.elidedAt_of_decode live
  have same : min bridge.options.maxDepth 2048 = min asked.maxDepth 2048 := by
    rw [held]
    exact congrArg DecodeOptions.maxDepth asked.clamped_clamped
  rwa [same] at bounded

namespace Config

/-- The settings that a text and a layer over it ask for, bounds or not. -/
def Asked (env : Environment) (format : Format) (text : String) (above : List (String × Tree))
    (asked : Config) : Prop :=
  ∃ fields, format.parse? (substitute env text) = some fields ∧
    ofFields (layer (layer [] (Tree.lowerFields fields)) above) = .ok asked

/-- The settings in a text are those that it asks for, with the bound of decoding clamped. -/
theorem exists_asked_of_ofLayers {env : Environment} {origin : Origin} {format : Format}
    {text : String} {above : List (String × Tree)} {config : Config}
    (ok : ofLayers env origin format text above = .ok config) :
    ∃ asked, Asked env format text above asked ∧ config = asked.clamped := by
  rw [ofLayers] at ok
  split at ok
  · cases ok
  · rename_i fields parsed
    split at ok
    · cases ok
    · rename_i asked read
      cases ok
      exact ⟨asked, ⟨fields, parsed, read⟩, rfl⟩

/-- The settings in a file are those that its text and the environment ask for, with the bound of
decoding clamped. -/
theorem exists_asked_of_load {env : Environment} {read : String → Except FileFault (List UInt8)}
    {path : String} {config : Config} (ok : load env read path = .ok config) :
    ∃ format bytes text asked, Format.ofPath path = .ok format ∧ read path = .ok bytes ∧
      Text.Utf8.decode? bytes = some text ∧ Asked env format text (overrides env) asked ∧
      config = asked.clamped := by
  rw [load] at ok
  split at ok
  · cases ok
  · rename_i format named
    split at ok
    · cases ok
    · rename_i bytes found
      split at ok
      · cases ok
      · rename_i text decoded
        obtain ⟨asked, asks, clamped⟩ := exists_asked_of_ofLayers ok
        exact ⟨format, bytes, text, asked, named, found, decoded, asks, clamped⟩

/-- The settings hold a requested bound pulled down to the ceiling, and bridges that are started with
them keep it. -/
structure Keeps (config : Config) (requested : DecodeOptions) : Prop where
  decode_eq : config.decode = ⟨min requested.maxDepth 2048, requested.detectCycles⟩
  project {σ : Type} {guest : Guest σ} {bridge : Bridge σ} {value : Word} {shown : Projection} :
    Bridge.start config guest = .ok bridge → (bridge.project value).1 = .ok shown →
    shown.ElidedAt (min requested.maxDepth 2048 + 1)

theorem keeps_clamped (asked : Config) : asked.clamped.Keeps asked.decode where
  decode_eq := rfl
  project started ok := by
    have held := Bridge.options_of_start started
    rw [clamped, DecodeOptions.clamped_clamped] at held
    exact Bridge.elidedAt_of_project held ok

end Config

/-- Every decode ends, and within the bound that was asked for, pulled down to 2048, whatever the heap
answers and whichever way the bound was asked for. It makes at most three accessor calls for each node
of a full tree that deep, and nests one call for each level. If it succeeds, no node lies deeper than
one level below the bound, and those that lie there are the elided ones. The options of a bridge are at
all times the last ones asked for with their bound pulled down. -/
theorem decode_keeps_bound :
    (∀ {σ : Type} (heap : HeapReader σ) (options : DecodeOptions) (raw : Word) (state : σ),
      (Projection.decode heap.recorded options raw (state, [])).2.2.length + 3 ≤
        3 * 2 ^ (min options.maxDepth 2048 + 1) ∧
      (∀ path call, DecodeCall.Reached heap options.detectCycles
          ⟨options.clamped.maxDepth + 1, raw, [], state⟩ path call →
        path.length + call.levels = min options.maxDepth 2048 + 1) ∧
      ∀ shown, (Projection.decode heap options raw state).1 = .ok shown →
        shown.ElidedAt (min options.maxDepth 2048 + 1)) ∧
    (∀ {σ : Type} (ctx : DecodingContext σ) (options : DecodeOptions) (value : Word)
      (inst : Instance σ) (shown : Projection), (ctx.decode options value inst).1 = .ok shown →
        shown.ElidedAt (min options.maxDepth 2048 + 1)) ∧
    (∀ env format text config, Config.ofText env format text = .ok config →
      ∃ asked, Config.Asked env format text [] asked ∧ config.Keeps asked.decode) ∧
    (∀ env read path config, Config.load env read path = .ok config →
      ∃ format bytes text asked, Config.Format.ofPath path = .ok format ∧ read path = .ok bytes ∧
        Text.Utf8.decode? bytes = some text ∧
        Config.Asked env format text (Config.overrides env) asked ∧ config.Keeps asked.decode) ∧
    ∀ {σ : Type} (config : Config) (guest : Guest σ) (bridge : Bridge σ),
      Bridge.start config guest = .ok bridge → ∀ operations,
        (bridge.performAll operations).2.options.maxDepth =
            min (Bridge.lastOptions config.decode operations).maxDepth 2048 ∧
        ∀ value shown, ((bridge.performAll operations).2.project value).1 = .ok shown →
          shown.ElidedAt (min (Bridge.lastOptions config.decode operations).maxDepth 2048 + 1) := by
  refine ⟨?_, ?_, ?_, ?_, ?_⟩
  · intro σ heap options raw state
    refine ⟨Projection.length_calls_le heap options raw state, ?_, ?_⟩
    · intro path call reached
      exact reached.length_add_levels
    · intro shown ok
      exact Projection.elidedAt_of_decode ok
  · intro σ ctx options value inst shown ok
    exact DecodingContext.elidedAt_of_decode ok
  · intro env format text config ok
    obtain ⟨asked, asks, rfl⟩ := Config.exists_asked_of_ofLayers ok
    exact ⟨asked, asks, asked.keeps_clamped⟩
  · intro env read path config ok
    obtain ⟨format, bytes, text, asked, named, found, decoded, asks, rfl⟩ :=
      Config.exists_asked_of_load ok
    exact ⟨format, bytes, text, asked, named, found, decoded, asks, asked.keeps_clamped⟩
  · intro σ config guest bridge started operations
    have held := bridge.options_performAll (Bridge.options_of_start started) operations
    refine ⟨congrArg DecodeOptions.maxDepth held, ?_⟩
    intro value shown ok
    exact Bridge.elidedAt_of_project held ok

/-- A guest in which every word is a pair, whose parts lie at the start of the memory. -/
def endlessGuest : Guest Unit :=
  Guest.exporting (Guest.accessors 2 0 0 ++ Guest.sentinels ++ [("wisp_tag_duo", .global (.i32 2))])

def ceilingConfig : Config :=
  { Config.default with decode := ⟨2048, true⟩ }

def endlessBridge : Bridge Unit where
  inst :=
    { guest := endlessGuest, limits := some .default, memory := .zeroed 65536, table := 0
      globals := (), host := { SyscallHost.new .default with binding := some "memory" }
      fuel := none }
  context :=
    { memory := "memory"
      tagOf := Guest.constant 1 2
      row := Guest.constant 2 0
      string := Guest.constant 1 0
      tags := ⟨[(2, .duo)]⟩
      sentinels := ⟨0, 1⟩ }
  abi := .default
  options := ⟨2048, true⟩

/-- What the endless guest shows with one level to expand below the root. -/
def endlessProjection : Projection :=
  .duo (.duo (.elided 0) (.elided 0)) (.duo (.elided 0) (.elided 0))

/-- The endless guest is decoded with one level below its root to expand, as a heap, alive and by a
bridge. A text and a variable of the environment ask for more than the ceiling, as do the settings that
start the bridge and the options it is given later. -/
theorem decode_keeps_bound_endlessGuest :
    ((Projection.decode endlessBridge.context.reader ⟨1, false⟩ 7 endlessBridge.inst).1 =
      .ok endlessProjection ∧ endlessProjection.ElidedAt 2) ∧
    ((endlessBridge.context.decode ⟨1, false⟩ 7 endlessBridge.inst).1 = .ok endlessProjection ∧
      endlessProjection.ElidedAt 2) ∧
    (Config.ofText [] .ini "[decode]\nmax_depth=99999" = .ok ceilingConfig ∧
      ∃ asked, Config.Asked [] .ini "[decode]\nmax_depth=99999" [] asked ∧
        ceilingConfig.Keeps asked.decode) ∧
    (Config.load [("WISP__DECODE__MAX_DEPTH", "5000")]
        (fun _ => .ok (Text.Utf8.encode "[decode]\nmax_depth=3")) "wisp.ini" = .ok ceilingConfig ∧
      ∃ format text asked, Config.Asked [("WISP__DECODE__MAX_DEPTH", "5000")] format text
          (Config.overrides [("WISP__DECODE__MAX_DEPTH", "5000")]) asked ∧
        ceilingConfig.Keeps asked.decode) ∧
    Bridge.start { Config.default with decode := ⟨99999, true⟩ } endlessGuest = .ok endlessBridge ∧
    (endlessBridge.performAll [.setOptions ⟨5000, true⟩]).2.options.maxDepth = 2048 ∧
    ((endlessBridge.performAll [.setOptions ⟨1, false⟩]).2.project 7).1 = .ok endlessProjection ∧
    endlessProjection.ElidedAt 2 := by
  obtain ⟨onHeap, live, ofText, ofFile, onBridge⟩ := decode_keeps_bound
  have decoded : (Projection.decode endlessBridge.context.reader ⟨1, false⟩ 7
      endlessBridge.inst).1 = .ok endlessProjection := rfl
  have text_ok : Config.ofText [] .ini "[decode]\nmax_depth=99999" = .ok ceilingConfig := by decide +kernel
  have file_ok : Config.load [("WISP__DECODE__MAX_DEPTH", "5000")]
      (fun _ => .ok (Text.Utf8.encode "[decode]\nmax_depth=3")) "wisp.ini" = .ok ceilingConfig := by
    decide +kernel
  have started : Bridge.start { Config.default with decode := ⟨99999, true⟩ } endlessGuest =
      .ok endlessBridge := rfl
  have within := (onHeap endlessBridge.context.reader ⟨1, false⟩ 7 endlessBridge.inst).2.2
    endlessProjection decoded
  have within_live := live endlessBridge.context ⟨1, false⟩ 7 endlessBridge.inst
    endlessProjection decoded
  have held := onBridge _ endlessGuest endlessBridge started
  obtain ⟨format, -, text, asked, -, -, -, asks, keeps⟩ := ofFile _ _ _ _ file_ok
  exact ⟨⟨decoded, within⟩, ⟨decoded, within_live⟩, ⟨text_ok, ofText _ _ _ _ text_ok⟩,
    ⟨file_ok, format, text, asked, asks, keeps⟩, started, (held [.setOptions ⟨5000, true⟩]).1, decoded,
    (held [.setOptions ⟨1, false⟩]).2 7 _ decoded⟩

end LispHost
