import InstructionTable.Main
import InstructionTable.Session
import InstructionTable.Proofs.Arm64
import InstructionTable.Proofs.Batch
import InstructionTable.Proofs.CommandLine.Delivery
import InstructionTable.Proofs.CommandLine.Invocation
import InstructionTable.Proofs.Decode.Reading
import InstructionTable.Proofs.Decode.Registry
import InstructionTable.Proofs.Decode.Shadowing
import InstructionTable.Proofs.Decode.Specific
import InstructionTable.Proofs.Directory
import InstructionTable.Proofs.Field.Bits
import InstructionTable.Proofs.Field.Geometry
import InstructionTable.Proofs.Field.Lens
import InstructionTable.Proofs.InstructionList.Accepted
import InstructionTable.Proofs.InstructionList.Drafts
import InstructionTable.Proofs.InstructionList.Reading
import InstructionTable.Proofs.Json.Brackets
import InstructionTable.Proofs.Json.Numerals
import InstructionTable.Proofs.Json.Strings
import InstructionTable.Proofs.Json.Values
import InstructionTable.Proofs.Layout.Filled
import InstructionTable.Proofs.Layout.Outcome
import InstructionTable.Proofs.Layout.Row
import InstructionTable.Proofs.Layout.Walk
import InstructionTable.Proofs.Lexical.Bare
import InstructionTable.Proofs.Lexical.Characters
import InstructionTable.Proofs.Lexical.Legible
import InstructionTable.Proofs.Lexical.Numbers
import InstructionTable.Proofs.Lexical.Printed
import InstructionTable.Proofs.Lexical.Strings
import InstructionTable.Proofs.Lexical.Words
import InstructionTable.Proofs.Listing.LayoutOnly
import InstructionTable.Proofs.Listing.ReadBack
import InstructionTable.Proofs.Listing.Recorded
import InstructionTable.Proofs.Listing.Rows
import InstructionTable.Proofs.Listing.Scope
import InstructionTable.Proofs.Pattern.FirstError
import InstructionTable.Proofs.Pattern.Grammar
import InstructionTable.Proofs.Pattern.Image
import InstructionTable.Proofs.Pattern.RoundTrip
import InstructionTable.Proofs.Pattern.Spelling
import InstructionTable.Proofs.Session
import InstructionTable.Proofs.Template.Compiled
import InstructionTable.Proofs.Template.Encode
import InstructionTable.Proofs.Template.Fields
import InstructionTable.Proofs.Template.Mutation
import InstructionTable.Proofs.Template.Narrowing
import InstructionTable.Proofs.Template.Partition
import InstructionTable.Proofs.Template.SelfMatching
import InstructionTable.Proofs.Text.Utf8
