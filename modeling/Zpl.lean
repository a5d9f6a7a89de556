import Zpl.Script.Session
import Zpl.Proofs.Text.Quoted
import Zpl.Proofs.Command.Arguments
import Zpl.Proofs.Command.Comma
import Zpl.Proofs.Command.Message
import Zpl.Proofs.Command.Reading
import Zpl.Proofs.Command.Refusal
import Zpl.Proofs.Document.Accepted
import Zpl.Proofs.Document.Concatenation
import Zpl.Proofs.Document.Delimited
import Zpl.Proofs.Document.Dump
import Zpl.Proofs.Document.Growth
import Zpl.Proofs.Document.Identity
import Zpl.Proofs.Document.Json
import Zpl.Proofs.Document.Lines
import Zpl.Proofs.Json.Lines
import Zpl.Proofs.Script.Balance
import Zpl.Proofs.Script.Log
import Zpl.Proofs.Script.RefusalLog
import Zpl.Proofs.Script.RenderLog
import Zpl.Proofs.Script.Transaction
