import LinkTap.Text.Numbers
import LinkTap.Channel.ErrorKind

/-!
# Link errors

Why reading or writing monitor frames stopped, and the message each cause is reported with.
A stream that ends inside a frame, a peer that closed, a byte channel that made no progress in
time count as disconnects; a bad length and a failure of the channel itself do not.
-/

set_option autoImplicit false

namespace LinkTap.Frame

inductive LinkError where
  | incomplete (expected received : Nat)
  | closed
  | badLength (length announced : Nat)
  | timeout (after : Duration)
  | io (kind : Channel.ErrorKind)
deriving DecidableEq, Repr, Inhabited

namespace LinkError

def message : LinkError → String
  | incomplete expected received =>
    "Stream ended inside a frame, got " ++ toString received ++ " of " ++ toString expected ++
      " bytes"
  | closed => "Connection closed by peer"
  | badLength length announced =>
    "Bad frame length " ++ Hex.ofNatPrefixed length ++ ", header announced " ++
      Hex.ofNatPrefixed announced
  | timeout after => "No progress on the byte channel for " ++ after.text
  | io _ => "Monitor link IO error"

/-- Whether the error means the peer is gone rather than that the link misbehaved. -/
def isDisconnect : LinkError → Bool
  | incomplete .. => true
  | closed => true
  | timeout _ => true
  | badLength .. => false
  | io _ => false

end LinkError

end LinkTap.Frame
