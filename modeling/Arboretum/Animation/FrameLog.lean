import Arboretum.Entries
import Arboretum.Fault

/-!
Sampling of lines that would otherwise be logged on every frame. A keyed line is due on its first
frame, whenever its phase is not the one logged last, and after a fixed number of frames.
-/

namespace Arboretum

set_option autoImplicit false

structure LoggedFrame where
  frame : Int
  phase : String
  deriving DecidableEq, Repr

/-- The interval of the sampling, zero for none, and what was logged last under each key. -/
structure FrameSampler where
  interval : Nat
  logged : Entries String LoggedFrame

namespace FrameSampler

def ofInterval (interval : Int) : Except Fault FrameSampler :=
  if interval < 0 then .error .negativeLogInterval else .ok ⟨interval.toNat, []⟩

def isDue (sampler : FrameSampler) (key : String) (frame : Int) (phase : String) : Bool :=
  match sampler.logged.find? key with
  | none => true
  | some last =>
      last.phase != phase ||
        (sampler.interval != 0 && decide ((sampler.interval : Int) ≤ frame - last.frame))

/-- Whether the line of a key is due at a frame, and the sampler that remembers it if it is. -/
def sample (sampler : FrameSampler) (key : String) (frame : Int) (phase : String) :
    Bool × FrameSampler :=
  if sampler.isDue key frame phase then
    (true, { sampler with logged := sampler.logged.put key ⟨frame, phase⟩ })
  else (false, sampler)

def forget (key : String) (sampler : FrameSampler) : FrameSampler :=
  { sampler with logged := sampler.logged.erase key }

/-- A message with its place marks `%s` filled in order; two percent signs stand for one. There must
be as many arguments as place marks. -/
def filled : List Char → List String → Except Fault (List Char)
  | ['%'], _ => .error .placeMarkIncomplete
  | '%' :: '%' :: rest, arguments => do return '%' :: (← filled rest arguments)
  | '%' :: 's' :: _, [] => .error .argumentsMissing
  | '%' :: 's' :: rest, argument :: others => do return argument.toList ++ (← filled rest others)
  | symbol :: rest, arguments => do return symbol :: (← filled rest arguments)
  | [], [] => .ok []
  | [], _ :: _ => .error .argumentsLeftOver

end FrameSampler

end Arboretum
