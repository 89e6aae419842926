namespace PointSelect

/-- Stands for the explanation of a fault whose wording is not fixed. -/
def anyDetail : String := "<detail>"

end PointSelect
