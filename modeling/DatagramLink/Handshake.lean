import DatagramLink.Command

/-!
# Handshake

The connectionless commands that set up, query and end a connection.
-/

namespace DatagramLink

/-- The version of the protocol; a server refuses clients with another one. -/
def protocolVersion : Nat := 1

/-- Asks a server for its name and how many clients it has. -/
def infoRequest : Command := ⟨"getinfo", []⟩

/-- A server's answer to a request for information. -/
def infoResponse (hostname : String) (clients capacity : Nat) : Command :=
  ⟨"infoResponse", [hostname, toString clients, toString capacity, toString protocolVersion]⟩

def connectRequest (qport : UInt16) : Command :=
  ⟨"connect", [toString qport, toString protocolVersion]⟩

/-- A server's answer to an accepted request for a connection. -/
def connectResponse (id : Nat) : Command := ⟨"connectResponse", [toString id]⟩

/-- Tells a server that its sender leaves. -/
def disconnectNotice : Command := ⟨"disconnect", []⟩

/-- A text for the user of a client. -/
def printNotice (text : String) : Command := ⟨"print", [text]⟩

end DatagramLink
