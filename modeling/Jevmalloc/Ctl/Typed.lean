import Jevmalloc.Ctl.Names

set_option autoImplicit false

namespace Jevmalloc

open Interaction Bytes

section Booleans

variable (target : CTarget)

-- The platform's C representation of a boolean.
def cbool : Bool → CType
  | true => .int
  | false => .bool

def encodeBool : (msvc : Bool) → Bool → (cbool msvc).Value
  | true, value => if value then 1#32 else 0#32
  | false, value => value

def decodeBool : (msvc : Bool) → (cbool msvc).Value → Bool
  | true, value =>
      let word : CInt := value
      decide (word ≠ 0#32)
  | false, value => value

namespace Value

def getBool (key : Key) : Jem Bool := do
  let value ← Raw.get target key (cbool target.msvc)
  return decodeBool target.msvc value

def nonNullText (pointer : Option (List UInt8)) : Except Error (List UInt8) :=
  match pointer with
  | none => .error .badAddress
  | some text => .ok text

def getCstr (key : Key) : Jem (List UInt8) := do
  let value ← Raw.get target key .text
  checked (nonNullText value)

def xchgBool (key : Key) (value : Bool) : Jem Bool := do
  let previous ← Raw.xchg target key (cbool target.msvc) (encodeBool target.msvc value)
  return decodeBool target.msvc previous

end Value

end Booleans

inductive PercpuMode where
  | disabled
  | percpu
  | phycpu
deriving DecidableEq, Repr

def PercpuMode.word : PercpuMode → List UInt8
  | .disabled => utf8 "disabled"
  | .percpu => utf8 "percpu"
  | .phycpu => utf8 "phycpu"

def PercpuMode.parse (pointer : Option (List UInt8)) : Except Error PercpuMode :=
  match pointer with
  | none => .error .badAddress
  | some value =>
      if value = PercpuMode.disabled.word then .ok .disabled
      else if value = PercpuMode.percpu.word then .ok .percpu
      else if value = PercpuMode.phycpu.word then .ok .phycpu
      else .error .invalidArgument

def tcacheNcachedMaxSettingsLen : Nat := 1000

-- The functions whose whole effect is one control call. The first seven are
-- the shapes that opt, config, stats, profiling, thread and arenas share; raw
-- is a user of ctl::raw with a key of its own.
inductive ControlCall where
  | boolGetter (name : String)
  | scalarGetter (name : String) (type : CType)
  | cstrGetter (name : String)
  | boolExchange (name : String) (value : Bool)
  | scalarExchange (name : String) (type : CType) (value : type.Value)
  | lookup (name : String) (input : CType) (value : input.Value) (output : CType)
  | notify (name : String)
  | arenasLimit
  | percpuMode
  | percpuIs (modes : List PercpuMode)
  | setTcacheNcachedMax (settings : List UInt8)
  | raw (key : Key) (output : Output) (input : Option Input)

namespace ControlCall

def Result : ControlCall → Type
  | .boolGetter _ | .boolExchange _ _ => Except Error Bool
  | .scalarGetter _ type | .scalarExchange _ type _ => Except Error type.Value
  | .lookup _ _ _ output => Except Error output.Value
  | .cstrGetter _ => Except Error (List UInt8)
  | .notify _ | .setTcacheNcachedMax _ => Except Error Unit
  | .arenasLimit => Except Error Nat
  | .percpuMode => Except Error PercpuMode
  | .percpuIs _ => Bool
  | .raw _ output _ => Except Error output.Value

end ControlCall

section Calls

variable (target : CTarget)

def Arenas.percpuMode : Jem PercpuMode := do
  let key ← defineKey "opt.percpu_arena"
  let mode ← Raw.get target key .text
  checked (PercpuMode.parse mode)

-- bytes are the settings with their terminator, and the copy panics when they
-- do not fit.
def ThisThread.setTcacheNcachedMax (settings : List UInt8) : Jem Unit :=
  let bytes := settings ++ [0]
  if tcacheNcachedMaxSettingsLen < bytes.length then throw .invalidArgument
  else do
    let key ← defineKey "thread.tcache.ncached_max.write"
    match copyPrefix (List.replicate tcacheNcachedMaxSettingsLen 0) bytes with
    | none => ExceptT.mk (panic _)
    | some buffer => Raw.set target key .buffer buffer

def narrow (value : Nat) : Except Error Nat :=
  if value ≤ usizeMax target.width then .ok value else .error .invalidArgument

def isOkAnd {α : Type} (result : Except Error α) (holds : α → Bool) : Bool :=
  match result with
  | .ok value => holds value
  | .error _ => false

def ControlCall.code : (call : ControlCall) → Ctl MallctlResponse call.Result
  | .boolGetter name => ExceptT.run do
      let key ← defineKey name
      Value.getBool target key
  | .scalarGetter name type => ExceptT.run do
      let key ← defineKey name
      Raw.get target key type
  | .cstrGetter name => ExceptT.run do
      let key ← defineKey name
      Value.getCstr target key
  | .boolExchange name value => ExceptT.run do
      let key ← defineKey name
      Value.xchgBool target key value
  | .scalarExchange name type value => ExceptT.run do
      let key ← defineKey name
      Raw.xchg target key type value
  | .lookup name input value output => ExceptT.run do
      let key ← defineKey name
      Raw.update target key input value output
  | .notify name => ExceptT.run do
      let key ← defineKey name
      Raw.notify target key
  | .arenasLimit => ExceptT.run do
      let key ← defineKey "arenas.narenas"
      let arenas ← Raw.get target key .unsigned
      checked (narrow target arenas)
  | .percpuMode => (Arenas.percpuMode target).run
  | .percpuIs modes => do
      let mode ← (Arenas.percpuMode target).run
      return isOkAnd mode fun mode => decide (mode ∈ modes)
  | .setTcacheNcachedMax settings => (ThisThread.setTcacheNcachedMax target settings).run
  | .raw key output input => (Raw.mallctlbymib target key output input).run

end Calls

end Jevmalloc
