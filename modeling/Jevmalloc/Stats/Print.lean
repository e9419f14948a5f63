import Jevmalloc.Bytes
import Jevmalloc.Ctl.Error

set_option autoImplicit false

namespace Jevmalloc

open Bytes

namespace Stats

-- The bytes of "Jgmdablxeh".
def printOptions : List UInt8 := [74, 103, 109, 100, 97, 98, 108, 120, 101, 104]
def printOptionsCapacity : Nat := printOptions.length + 1

section Options

def normalizeOption (option : UInt8) (buf : List UInt8) (len : Nat) : Option (List UInt8 × Nat) :=
  if printOptions.contains option then do
    let kept ← sliceTo buf len
    if kept.contains option then some (buf, len)
    else do
      let buf ← setAt buf len option
      some (buf, len + 1)
  else some (buf, len)

def normalizeLoop : List UInt8 → List UInt8 → Nat → Option (Except Error (List UInt8 × Nat))
  | [], buf, len => some (.ok (buf, len))
  | option :: rest, buf, len =>
      if option = 0 then some (.error .invalidArgument)
      else do
        let (buf, len) ← normalizeOption option buf len
        normalizeLoop rest buf len

def normalizeOptions (opts : String) (buf : List UInt8) : Option (Except Error (List UInt8)) := do
  match ← normalizeLoop (utf8 opts) buf 0 with
  | .error reason => some (.error reason)
  | .ok (buf, len) => (sliceTo buf (len + 1)).map .ok

end Options

structure PrintBuffer where
  buf : List UInt8
  len : Nat
  overflowed : Bool

def PrintBuffer.new (buf : List UInt8) : PrintBuffer := ⟨buf, 0, false⟩

def checkedAdd (width : Width) (left right : Nat) : Option Nat :=
  if left + right ≤ usizeMax width then some (left + right) else none

def PrintBuffer.write (width : Width) (output : PrintBuffer) (fragment : List UInt8) : Option PrintBuffer :=
  if output.overflowed then some output
  else match checkedAdd width output.len fragment.length with
    | none => some { output with overflowed := true }
    | some stop =>
        if rangeFits output.buf output.len stop then do
          let buf ← copyInto output.buf output.len stop fragment
          some { output with buf := buf, len := stop }
        else some { output with overflowed := true }

def PrintBuffer.finish (output : PrintBuffer) : Option (Except Error String) :=
  if output.overflowed then some (.error .insufficientSpace)
  else do
    let bytes ← sliceTo output.buf output.len
    match fromUtf8 bytes with
    | some text => some (.ok text)
    | none => some (.error .invalidUtf8)

abbrev Fragment := { memory : List UInt8 // 0 ∈ memory }

def Fragment.bytes (fragment : Fragment) : List UInt8 := cString fragment.val

section Printing

variable {S : Type}

def writeFragment (write : S → List UInt8 → Option S) (state : S) (fragment : Fragment) : Option S :=
  write state fragment.bytes

-- report stands for malloc_stats_print: it reads the option string up to its
-- NUL and calls the writer with one fragment after another.
def printRaw (report : List UInt8 → List Fragment) (opts : List UInt8) (write : S → List UInt8 → Option S)
    (state : S) : Option S :=
  (report (cString opts)).foldlM (writeFragment write) state

end Printing

def print (width : Width) (report : List UInt8 → List Fragment) (opts : String) (buf : List UInt8) :
    Option (Except Error String × List UInt8) := do
  match ← normalizeOptions opts (List.replicate printOptionsCapacity 0) with
  | .error reason => some (.error reason, buf)
  | .ok opts => do
      let output ← printRaw report opts (PrintBuffer.write width) (PrintBuffer.new buf)
      let result ← output.finish
      some (result, output.buf)

end Stats

end Jevmalloc
