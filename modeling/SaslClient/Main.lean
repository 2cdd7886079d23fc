import SaslClient.Dialogue
/-!
# The command line

Plays the dialogue of the user named on the command line and prints its lines.
-/

def systemDraw : IO SaslClient.Draw := do
  try
    let octets ← IO.getRandomBytes 32
    return .ok (Vector.ofFn fun i => octets[i.val]?.getD 0)
  catch _ =>
    return .error .unexpected

def main (args : List String) : IO UInt32 := do
  let drawn ← systemDraw
  let transcript := SaslClient.Dialogue.run args { answer := fun _ => drawn }
  for line in transcript.lines do
    IO.println line
  return if transcript.broken then 101 else 0
