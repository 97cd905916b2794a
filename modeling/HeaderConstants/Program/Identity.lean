namespace HeaderConstants.Program

def name : String := "platconst"

def version : String := "0.1.0"

end HeaderConstants.Program
