/-!
# Wait statuses

How a child process ended, as the 32-bit word that waiting for it gives, and the exit code that
stands for it. A child killed by signal `s` counts as `128 + s`, as in a shell.

* `Ending.ofWord` : the fields of the word;
* `Ending.exitCode` : the exit code.
-/

namespace EnvInject

inductive Ending where
  | exited (code : Nat)
  | killed (signal : Nat)
  /-- Stopped or continued: neither a code nor a signal. -/
  | unsettled
  deriving DecidableEq, Repr

namespace Ending

/-- Reads a wait status. The low seven bits are 0 after an exit, whose code is the second byte, 127
for a process that has not ended, and else the signal; bit 7 marks a core dump. -/
def ofWord (word : UInt32) : Ending :=
  let low := (word &&& 0x7F).toNat
  if low = 0 then exited ((word >>> 8) &&& 0xFF).toNat
  else if low = 127 then unsettled
  else killed low

def exitCode : Ending → Nat
  | exited code => code
  | killed signal => 128 + signal
  | unsettled => 1

end Ending

end EnvInject
